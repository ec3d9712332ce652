import Dpvs.Ipv6.Prefix

/-!
# Receiving a Neighbour Solicitation

`ndisc_recv_ns` of `src/ipv6/ndisc.c` handles an ICMPv6 Neighbour Solicitation that
`ndisc_rcv` has let through (hop limit 255, code 0). It drops a solicitation for a
multicast target and a DAD probe (unspecified source) that is not sent to a
solicited-node address, parses the options (`ndisc_parse_options`), and passes a
solicitation for an address that is not dev's on to the kernel. For one of dev's
addresses it then reads the source link-layer address option, learns the sender's
link-layer address in the neighbour table and answers with a solicited Neighbour
Advertisement.

The option parser takes an option only when its header and its whole length lie in
what is left of the area, and accepts exactly the areas that are whole sequences of
options of non-zero length (`ndiscParseOptions_isSome_iff`).

The block at the end that handles a DAD probe (a failure of our own DAD when the target
is tentative, an advertisement to all nodes otherwise) cannot run: a solicitation without
a source link-layer address option has already been passed on to the kernel, and one with
such an option and an unspecified source has already been dropped
(`ndisc_dad_branch_dead`).

The message is modelled by its bytes from the ICMPv6 header on, in the head segment, so
that `mbuf_may_pull` succeeds exactly when the bytes are there.
-/

namespace Dpvs.Ndisc

open Route6Lpm (ipv6AddrAny)

/-- `ND_OPT_SOURCE_LINKADDR`. -/
def ndOptSourceLinkaddr : Nat := 1

/-- `ND_OPT_TARGET_LINKADDR`. -/
def ndOptTargetLinkaddr : Nat := 2

/-- `ND_OPT_PREFIX_INFORMATION`. -/
def ndOptPrefixInformation : Nat := 3

/-- `ND_OPT_REDIRECTED_HEADER`. -/
def ndOptRedirectedHeader : Nat := 4

/-- `ND_OPT_MTU`. -/
def ndOptMtu : Nat := 5

/-- `IFA_F_OPTIMISTIC`. -/
def ifaFOptimistic : UInt32 := 0x04

/-- `IFA_F_TENTATIVE`. -/
def ifaFTentative : UInt32 := 0x40

/-- `ipv6_addr_is_multicast`: the first byte is `0xff`; the words are in memory order. -/
def ipv6AddrIsMulticast (a : InetAddr) : Bool :=
  a.w0 &&& beToCpu32 0xff000000 == beToCpu32 0xff000000

/-- `ipv6_addr_is_solict_mult`: `ff02::1:ffXX:XXXX`. -/
def ipv6AddrIsSolictMult (a : InetAddr) : Bool :=
  ((a.w0 ^^^ beToCpu32 0xff020000) ||| a.w1 ||| (a.w2 ^^^ beToCpu32 0x00000001) |||
    (a.w3.toUInt8 ^^^ 0xff).toUInt32) == 0

/-- `struct ndisc_options`: `nd_opt_array`, each entry the offset in the option area of
the option it points to; entry 0 is `nd_opts_pi_end`. -/
abbrev NdOptions := Nat → Option Nat

/-- The switch of the parser on one option of type `t` at offset `pos`. -/
def ndRecord (nd : NdOptions) (t pos : Nat) : NdOptions :=
  if t = ndOptSourceLinkaddr ∨ t = ndOptTargetLinkaddr ∨ t = ndOptMtu ∨
      t = ndOptRedirectedHeader then
    -- a duplicated option is logged and the first one kept
    match nd t with
    | some _ => nd
    | none => Function.update nd t (some pos)
  else if t = ndOptPrefixInformation then
    let nd := Function.update nd 0 (some pos)
    match nd t with
    | some _ => nd
    | none => Function.update nd t (some pos)
  else nd

/-- The loop of `ndisc_parse_options` over what is left of the area, at offset `pos`:
`none` for its `NULL`. -/
def ndiscParseLoop : List UInt8 → Nat → NdOptions → Option NdOptions
  | [], _, nd => some nd
  | [_], _, _ => none
  | t :: len :: more, pos, nd =>
    let l := len.toNat <<< 3
    if more.length + 2 < l ∨ l = 0 then none
    else ndiscParseLoop ((t :: len :: more).drop l) (pos + l) (ndRecord nd t.toNat pos)
termination_by rest => rest.length
decreasing_by
  simp only [List.length_drop, List.length_cons]
  omega

/-- `ndisc_parse_options` on an option area. -/
def ndiscParseOptions (area : List UInt8) : Option NdOptions :=
  ndiscParseLoop area 0 fun _ => none

/-- `ndisc_opt_addr_data`: the six bytes of an Ethernet address, from an option of
exactly `NDISC_OPT_SPACE(6) = 8` bytes. -/
def ndiscOptAddrData (area : List UInt8) (pos : Nat) : Option (List UInt8) :=
  if (area.getD (pos + 1) 0).toNat <<< 3 ≠ 8 then none
  else some ((area.drop (pos + 2)).take 6)

/-- What `ndisc_recv_ns` reads besides the message: the flags of the target when it is an
address of dev (`inet_addr_ifa_get`), the neighbour entry of the source on dev
(`neigh_lookup_entry`: none, or whether it is static), and whether `neigh_add_table`
succeeds. -/
structure NsEnv where
  ifaFlags : InetAddr → Option UInt32
  neighStatic : Option Bool
  neighAddOk : Bool

/-- A solicitation: the source and destination of its IPv6 header and its bytes from the
ICMPv6 header on. -/
structure NsMsg where
  saddr : InetAddr
  daddr : InetAddr
  icmp : List UInt8

/-- What `ndisc_recv_ns` does with a solicitation. -/
inductive NsAction where
  /-- `EDPVS_DROP`. -/
  | drop
  /-- `EDPVS_KNICONTINUE` with nothing done: the kernel gets the packet. -/
  | kni
  /-- `inet_ifaddr_dad_failure` on the target, then the kernel. -/
  | dadFailure
  /-- An unsolicited advertisement of the target to all nodes, then the kernel. -/
  | defendNa
  /-- The source learned with this link-layer address (`neigh_edit` of its entry when
  `edit`, a new entry otherwise), a solicited advertisement to it with override `inc`,
  then the kernel. -/
  | learn (lladdr : List UInt8) (edit inc : Bool)
  /-- `EDPVS_NOMEM`: `neigh_add_table` failed. -/
  | noMem
  deriving DecidableEq, Repr

/-- The target address of a solicitation, bytes 8 to 23. -/
def nsTarget (msg : NsMsg) : InetAddr := InetAddr.ofBytes (msg.icmp.drop 8)

/-- `ndisc_recv_ns`. -/
def ndiscRecvNs (env : NsEnv) (msg : NsMsg) : NsAction :=
  let dad := ipv6AddrAny msg.saddr
  -- `mbuf_may_pull(mbuf, sizeof(struct nd_msg))`
  if msg.icmp.length < 24 then .drop
  else if ipv6AddrIsMulticast (nsTarget msg) then .drop
  else if dad ∧ !ipv6AddrIsSolictMult msg.daddr then .drop
  else
    let area := msg.icmp.drop 24
    match ndiscParseOptions area with
    | none => .drop
    | some nd =>
      match env.ifaFlags (nsTarget msg) with
      | none => .kni
      | some flags =>
        match nd ndOptSourceLinkaddr with
        -- "ingnore mbuf without opt"
        | none => .kni
        | some pos =>
          match ndiscOptAddrData area pos with
          | none => .drop
          | some lladdr =>
            if dad then .drop
            else
              let inc := ipv6AddrIsMulticast msg.daddr
              if dad then
                if flags &&& (ifaFTentative ||| ifaFOptimistic) ≠ 0 then .dadFailure
                else .defendNa
              else
                match env.neighStatic with
                | some false => .learn lladdr true inc
                | _ => if env.neighAddOk then .learn lladdr false inc else .noMem

/-! ## The option parser -/

/-- An option area made of whole options: each has its type and length bytes and exactly
the eight-byte units its length byte gives, none of them empty. -/
inductive WholeOptions : List UInt8 → Prop
  | nil : WholeOptions []
  | cons {opt rest : List UInt8} (long : 2 ≤ opt.length)
      (len : opt.length = (opt.getD 1 0).toNat * 8) (tail : WholeOptions rest) :
      WholeOptions (opt ++ rest)

/-- What the parser accepts is a whole sequence of options. -/
theorem wholeOptions_of_parse :
    ∀ (area : List UInt8) (pos : Nat) (nd : NdOptions),
      (ndiscParseLoop area pos nd).isSome → WholeOptions area
  | [], _, _, _ => .nil
  | [_], _, _, h => by simp [ndiscParseLoop] at h
  | t :: len :: more, pos, nd, h => by
    rw [ndiscParseLoop] at h
    split_ifs at h with bad
    · simp at h
    have l8 : len.toNat <<< 3 = len.toNat * 8 := Nat.shiftLeft_eq _ _
    rw [l8] at bad h
    -- the first option is the first `len * 8` bytes, the rest is parsed on
    have rest := wholeOptions_of_parse _ _ _ h
    rw [← List.take_append_drop (len.toNat * 8) (t :: len :: more)]
    refine .cons ?_ ?_ rest
    · simp only [List.length_take, List.length_cons]
      omega
    · have lenByte : (List.take (len.toNat * 8) (t :: len :: more)).getD 1 0 = len := by
        rw [List.getD_eq_getElem?_getD, List.getElem?_take_of_lt (by omega)]
        rfl
      simp only [List.length_take, List.length_cons, lenByte]
      omega
termination_by area => area.length
decreasing_by
  simp only [List.length_drop, List.length_cons]
  omega

/-- A whole sequence of options is accepted. -/
theorem parse_of_wholeOptions {area : List UInt8} (whole : WholeOptions area) :
    ∀ (pos : Nat) (nd : NdOptions), (ndiscParseLoop area pos nd).isSome := by
  induction whole with
  | nil =>
    intro pos nd
    rw [ndiscParseLoop]
    rfl
  | @cons opt rest long len tail ih =>
    intro pos nd
    obtain ⟨t, b, body, rfl⟩ : ∃ t b body, opt = t :: b :: body := by
      match opt, long with
      | t :: b :: body, _ => exact ⟨t, b, body, rfl⟩
    simp only [List.getD_cons_succ, List.getD_cons_zero, List.length_cons] at len
    have l8 : b.toNat <<< 3 = body.length + 2 := by rw [Nat.shiftLeft_eq]; omega
    rw [List.cons_append, List.cons_append, ndiscParseLoop]
    rw [if_neg (by simp only [l8, List.length_append]; omega), l8,
      show (t :: b :: (body ++ rest)).drop (body.length + 2) = rest by simp]
    exact ih _ _

/-- `ndisc_parse_options` accepts an area exactly when it is a whole sequence of options. -/
theorem ndiscParseOptions_isSome_iff (area : List UInt8) :
    (ndiscParseOptions area).isSome ↔ WholeOptions area :=
  ⟨wholeOptions_of_parse area 0 _, fun whole => parse_of_wholeOptions whole 0 _⟩

/-! ## What a solicitation can lead to -/

/-- The outcomes `ndisc_recv_ns` can reach: the second `if (dad)` stands where `dad` has
already sent the solicitation back, so its two branches are never taken. -/
theorem ndiscRecvNs_cases (env : NsEnv) (msg : NsMsg) :
    ndiscRecvNs env msg = .drop ∨ ndiscRecvNs env msg = .kni ∨ ndiscRecvNs env msg = .noMem ∨
      ∃ lladdr edit inc, ndiscRecvNs env msg = .learn lladdr edit inc := by
  unfold ndiscRecvNs
  dsimp only
  by_cases short : msg.icmp.length < 24
  · exact .inl (if_pos short)
  rw [if_neg short]
  by_cases multicast : ipv6AddrIsMulticast (nsTarget msg) = true
  · exact .inl (if_pos multicast)
  rw [if_neg multicast]
  by_cases badDad : ipv6AddrAny msg.saddr = true ∧ (!ipv6AddrIsSolictMult msg.daddr) = true
  · exact .inl (if_pos badDad)
  rw [if_neg badDad]
  rcases ndiscParseOptions (msg.icmp.drop 24) with _ | nd
  · exact .inl rfl
  dsimp only
  rcases env.ifaFlags (nsTarget msg) with _ | flags
  · exact .inr (.inl rfl)
  dsimp only
  rcases nd ndOptSourceLinkaddr with _ | pos
  · exact .inr (.inl rfl)
  dsimp only
  rcases ndiscOptAddrData (msg.icmp.drop 24) pos with _ | lladdr
  · exact .inl rfl
  dsimp only
  -- past `if (dad) return EDPVS_DROP`, the second test of `dad` is false
  cases ipv6AddrAny msg.saddr with
  | true => exact .inl rfl
  | false =>
    rcases env.neighStatic with _ | _ | _
    · cases env.neighAddOk
      · exact .inr (.inr (.inl rfl))
      · exact .inr (.inr (.inr ⟨_, _, _, rfl⟩))
    · exact .inr (.inr (.inr ⟨_, _, _, rfl⟩))
    · cases env.neighAddOk
      · exact .inr (.inr (.inl rfl))
      · exact .inr (.inr (.inr ⟨_, _, _, rfl⟩))

/-- A DAD probe as RFC 4861 sends it, with no options, to one of dev's addresses is passed
on to the kernel untouched. -/
theorem ndiscRecvNs_dad_probe {env : NsEnv} {msg : NsMsg} (dad : ipv6AddrAny msg.saddr = true)
    (solicited : ipv6AddrIsSolictMult msg.daddr = true)
    (unicast : ipv6AddrIsMulticast (nsTarget msg) = false) (bare : msg.icmp.length = 24)
    (ours : (env.ifaFlags (nsTarget msg)).isSome) : ndiscRecvNs env msg = .kni := by
  obtain ⟨flags, owned⟩ := Option.isSome_iff_exists.mp ours
  have noOptions : msg.icmp.drop 24 = [] := List.drop_eq_nil_of_le (by omega)
  have parsed : ndiscParseOptions [] = some fun _ => none := by
    rw [ndiscParseOptions, ndiscParseLoop.eq_1]
  unfold ndiscRecvNs
  rw [if_neg (by omega), if_neg (by simp [unicast]), if_neg (by simp [dad, solicited])]
  simp only [noOptions, parsed, owned]

theorem ndisc_dad_branch_dead (env : NsEnv) (msg : NsMsg) :
    (ndiscRecvNs env msg ≠ .dadFailure ∧ ndiscRecvNs env msg ≠ .defendNa) ∧
      (ipv6AddrAny msg.saddr = true → ipv6AddrIsSolictMult msg.daddr = true →
        ipv6AddrIsMulticast (nsTarget msg) = false → msg.icmp.length = 24 →
        (env.ifaFlags (nsTarget msg)).isSome → ndiscRecvNs env msg = .kni) := by
  refine ⟨?_, fun dad solicited unicast bare ours => ndiscRecvNs_dad_probe dad solicited unicast bare ours⟩
  rcases ndiscRecvNs_cases env msg with h | h | h | ⟨lladdr, edit, inc, h⟩ <;> rw [h] <;>
    exact ⟨by simp, by simp⟩

/-- A DAD probe from `::` to `ff02::1:ff00:1` for `fe80::1`, tentative on dev. -/
def dadProbe : NsMsg :=
  ⟨⟨0, 0, 0, 0⟩, InetAddr.ofBytes [0xff, 0x02, 0, 0, 0, 0, 0, 0, 0, 0, 0, 1, 0xff, 0, 0, 1],
    [135, 0, 0, 0, 0, 0, 0, 0, 0xfe, 0x80, 0, 0, 0, 0, 0, 0, 0, 0, 0, 0, 0, 0, 0, 1]⟩

/-- dev holds every address, tentative, and the source has no neighbour entry. -/
def tentativeEnv : NsEnv := ⟨fun _ => some ifaFTentative, none, true⟩

theorem ndisc_dad_branch_dead_probe :
    (ndiscRecvNs tentativeEnv dadProbe ≠ .dadFailure ∧ ndiscRecvNs tentativeEnv dadProbe ≠ .defendNa) ∧
      ndiscRecvNs tentativeEnv dadProbe = .kni :=
  ⟨(ndisc_dad_branch_dead tentativeEnv dadProbe).1,
    (ndisc_dad_branch_dead tentativeEnv dadProbe).2 (by decide) (by decide) (by decide) rfl rfl⟩

end Dpvs.Ndisc
