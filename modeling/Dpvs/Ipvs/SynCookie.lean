import Dpvs.Basic

/-!
# SYN cookies

`src/ipvs/ip_vs_synproxy.c` answers a SYN with a SYN-ACK whose sequence number is a
cookie, so that nothing is kept before the client's ACK. The cookie is the sum of a
hash of the connection, the client's sequence number, the minute counter in the top
eight bits, and in the low 24 bits a second hash plus a small `data` field that holds
the MSS index and the TCP options of the SYN. The ACK's acknowledgement number less
one gives the cookie back, and `check_tcp_syn_cookie` strips the layers again.

`cookie_hash` and `cookie_hash_v6` are MD5 over the tuple, the counter and a secret;
the model takes them as arbitrary functions. With the tuple fixed both leave a function
of the counter and of the index of the secret, so the IPv4 and IPv6 variants are one
definition applied to two hashes.
-/

namespace Dpvs

/-! ## The cookie arithmetic -/

/-- `COOKIEBITS`: the counter sits above the low 24 bits. -/
def cookieBits : UInt32 := 24

/-- `COOKIEMASK`. -/
def cookieMask : UInt32 := (1 <<< cookieBits) - 1

/-- `secure_tcp_syn_cookie` with the tuple fixed: `hash count c` is the cookie hash of the
tuple at `count` with the secret `g_net_secret[c]`. -/
def secureSynCookie (hash : UInt32 → Fin 2 → UInt32) (sseq count data : UInt32) : UInt32 :=
  hash 0 0 + sseq + (count <<< cookieBits) + ((hash count 1 + data) &&& cookieMask)

/-- `check_tcp_syn_cookie` with the tuple fixed: the `data` field, or `(uint32_t) -1` when
the cookie's counter is `maxdiff` or more minutes behind `count`. -/
def checkSynCookie (hash : UInt32 → Fin 2 → UInt32) (cookie sseq count maxdiff : UInt32) :
    UInt32 :=
  let cookie := cookie - (hash 0 0 + sseq)
  let diff := (count - (cookie >>> cookieBits)) &&& ((0xffffffff : UInt32) >>> cookieBits)
  if diff ≥ maxdiff then 0xffffffff
  else (cookie - hash (count - diff) 1) &&& cookieMask

/-- `secure_tcp_syn_cookie`; `cookieHash` is `cookie_hash`. -/
def secureTcpSynCookie (cookieHash : UInt32 → UInt32 → UInt16 → UInt16 → UInt32 → Fin 2 → UInt32)
    (saddr daddr : UInt32) (sport dport : UInt16) (sseq count data : UInt32) : UInt32 :=
  secureSynCookie (cookieHash saddr daddr sport dport) sseq count data

/-- `check_tcp_syn_cookie`. -/
def checkTcpSynCookie (cookieHash : UInt32 → UInt32 → UInt16 → UInt16 → UInt32 → Fin 2 → UInt32)
    (cookie saddr daddr : UInt32) (sport dport : UInt16) (sseq count maxdiff : UInt32) : UInt32 :=
  checkSynCookie (cookieHash saddr daddr sport dport) cookie sseq count maxdiff

/-- `secure_tcp_syn_cookie_v6`; `cookieHashV6` is `cookie_hash_v6`. -/
def secureTcpSynCookieV6
    (cookieHashV6 : InetAddr → InetAddr → UInt16 → UInt16 → UInt32 → Fin 2 → UInt32)
    (saddr daddr : InetAddr) (sport dport : UInt16) (sseq count data : UInt32) : UInt32 :=
  secureSynCookie (cookieHashV6 saddr daddr sport dport) sseq count data

/-- `check_tcp_syn_cookie_v6`. -/
def checkTcpSynCookieV6
    (cookieHashV6 : InetAddr → InetAddr → UInt16 → UInt16 → UInt32 → Fin 2 → UInt32)
    (cookie : UInt32) (saddr daddr : InetAddr) (sport dport : UInt16)
    (sseq count maxdiff : UInt32) : UInt32 :=
  checkSynCookie (cookieHashV6 saddr daddr sport dport) cookie sseq count maxdiff

theorem toNat_and_cookieMask (x : UInt32) : (x &&& cookieMask).toNat = x.toNat % 2 ^ 24 := by
  rw [UInt32.toNat_and, show cookieMask.toNat = 2 ^ 24 - 1 by decide,
    Nat.and_two_pow_sub_one_eq_mod]

/-- What is left of a cookie once the first hash and `sseq` are taken away. -/
theorem secureSynCookie_sub (hash : UInt32 → Fin 2 → UInt32) (sseq count data : UInt32) :
    secureSynCookie hash sseq count data - (hash 0 0 + sseq) =
      (count <<< cookieBits) + ((hash count 1 + data) &&& cookieMask) := by
  unfold secureSynCookie
  grind

/-- The top eight bits of the stripped cookie are the counter modulo 256. -/
theorem stripped_shiftRight (count x : UInt32) :
    ((count <<< cookieBits) + (x &&& cookieMask)) >>> cookieBits = count % 256 := by
  have low := toNat_and_cookieMask x
  apply UInt32.toNat_inj.mp
  rw [UInt32.toNat_shiftRight, UInt32.toNat_add, UInt32.toNat_shiftLeft, low,
    UInt32.toNat_mod, Nat.shiftLeft_eq, Nat.shiftRight_eq_div_pow]
  simp only [cookieBits, UInt32.reduceToNat, Nat.reduceMod]
  omega

/-- The counter difference the check computes is the real one when it is below 256. -/
theorem minute_diff (count count' : UInt32) (age : count' - count < 256) :
    (count' - count % 256) &&& ((0xffffffff : UInt32) >>> cookieBits) = count' - count := by
  have mask : ((0xffffffff : UInt32) >>> cookieBits).toNat = 2 ^ 8 - 1 := by decide
  have age' := UInt32.lt_iff_toNat_lt.mp age
  have bounds := And.intro count.toNat_lt count'.toNat_lt
  rw [UInt32.toNat_sub] at age'
  apply UInt32.toNat_inj.mp
  rw [UInt32.toNat_and, mask, Nat.and_two_pow_sub_one_eq_mod, UInt32.toNat_sub,
    UInt32.toNat_sub, UInt32.toNat_mod]
  simp only [UInt32.reduceToNat] at age' ⊢
  omega

/-- Taking the second hash away from the low bits leaves the data. -/
theorem stripped_sub_hash (count h data : UInt32) (small : data ≤ cookieMask) :
    ((count <<< cookieBits) + ((h + data) &&& cookieMask) - h) &&& cookieMask = data := by
  have small' := UInt32.le_iff_toNat_le.mp small
  rw [show cookieMask.toNat = 2 ^ 24 - 1 by decide] at small'
  have bounds := And.intro count.toNat_lt h.toNat_lt
  apply UInt32.toNat_inj.mp
  rw [toNat_and_cookieMask, UInt32.toNat_sub, UInt32.toNat_add, toNat_and_cookieMask,
    UInt32.toNat_add, UInt32.toNat_shiftLeft, Nat.shiftLeft_eq]
  simp only [cookieBits, UInt32.reduceToNat, Nat.reduceMod]
  omega

/-- A cookie made at counter `count` is accepted at any counter less than four minutes
later, and the check gives back the data it was made with. -/
theorem checkSynCookie_secureSynCookie (hash : UInt32 → Fin 2 → UInt32)
    (sseq count count' data : UInt32) (age : count' - count < 4) (small : data ≤ cookieMask) :
    checkSynCookie hash (secureSynCookie hash sseq count data) sseq count' 4 = data := by
  have young : count' - count < 256 := UInt32.lt_of_lt_of_le age (by decide)
  have diff : (count' - ((count <<< cookieBits) +
      ((hash count 1 + data) &&& cookieMask)) >>> cookieBits) &&&
        ((0xffffffff : UInt32) >>> cookieBits) = count' - count := by
    rw [stripped_shiftRight]
    exact minute_diff count count' young
  have back : count' - (count' - count) = count := by grind
  unfold checkSynCookie
  simp only [secureSynCookie_sub, diff, back, stripped_sub_hash count _ data small]
  rw [if_neg (by simpa using age)]

/-! ## The options in the cookie -/

/-- `struct dp_vs_synproxy_opt`: an 8-bit and three 1-bit fields, and the MSS. -/
structure SynproxyOpt where
  sndWscale : UInt8
  tstampOk : Bool
  wscaleOk : Bool
  sackOk : Bool
  mssClamp : UInt16
  deriving DecidableEq, Repr

/-! The fields of `data`, from `include/ipvs/synproxy.h`: the low twelve bits
(`DP_VS_SYNPROXY_OTHER_MASK`) stay zero, the MSS index sits at bit 12, the window scale at
bit 16, the timestamp flag at bit 20 and the SACK flag at bit 21. A cookie is good for
`DP_VS_SYNPROXY_COUNTER_TRIES` minutes. -/

def synproxyOtherMask : UInt32 := ((1 : UInt32) <<< 12) - 1

def synproxyMssBits : UInt32 := 12

def synproxyMssMask : UInt32 := 0xf <<< synproxyMssBits

def synproxySackokBit : UInt32 := 21

def synproxySackokMask : UInt32 := 1 <<< synproxySackokBit

def synproxyTsokBit : UInt32 := 20

def synproxyTsokMask : UInt32 := 1 <<< synproxyTsokBit

def synproxySndWscaleBits : UInt32 := 16

def synproxySndWscaleMask : UInt32 := 0xf <<< synproxySndWscaleBits

def synproxyWscaleMax : UInt8 := 14

def dpVsSynproxyCounterTries : UInt32 := 4

/-- `msstab`, sorted and closed by `(uint16_t)-1`. -/
def msstab : List UInt16 :=
  [64 - 1, 256 - 1, 512 - 1, 536 - 1, 1024 - 1, 1280 - 1, 1440 - 1, 1452 - 1, 1460 - 1,
    4312 - 1, 0xffff]

/-- `NUM_MSS`: the entries before the terminator. -/
def numMss : Nat := msstab.length - 1

/-- `for (mssind = 0; mss > msstab[mssind + 1]; mssind++)`, walking `msstab[mssind + 1 ..]`. -/
def mssSearch (mss : UInt16) (mssind : Nat) : List UInt16 → Nat
  | [] => mssind
  | next :: rest => if mss > next then mssSearch mss (mssind + 1) rest else mssind

/-- The index the init sequence picks: the last entry of `msstab` not above `mss`, or 0. -/
def mssIndex (mss : UInt16) : Nat := mssSearch mss 0 msstab.tail

/-- The cookie's `data`: `mssind` in bits 12 to 15, `snd_wscale` in bits 16 to 19, the
timestamp flag in bit 20 and the SACK flag in bit 21. -/
def cookieData (mssind : Nat) (opts : SynproxyOpt) : UInt32 :=
  ((mssind.toUInt32 &&& 0x0f) <<< synproxyMssBits) |||
    (opts.sackOk.toUInt32 <<< synproxySackokBit) |||
    (opts.tstampOk.toUInt32 <<< synproxyTsokBit) |||
    ((opts.sndWscale.toUInt32 &&& 0xf) <<< synproxySndWscaleBits)

/-- The body shared by `syn_proxy_cookie_v4_init_sequence` and its v6 twin, with
`secure sseq count data` the cookie of the SYN's tuple: the MSS is rounded down to the
table, and the cookie is made at `minuteCount` from the SYN's `ntohl(th->seq)`. -/
def cookieInitSequence (secure : UInt32 → UInt32 → UInt32 → UInt32) (seq minuteCount : UInt32)
    (opts : SynproxyOpt) : UInt32 × SynproxyOpt :=
  let mssind := mssIndex opts.mssClamp
  let opts := { opts with mssClamp := msstab.getD mssind 0 + 1 }
  (secure seq minuteCount (cookieData mssind opts), opts)

/-- A store into a one-bit field keeps the low bit. -/
def lowBit (x : UInt32) : Bool := x &&& 1 != 0

/-- What `syn_proxy_v4_cookie_check` and its v6 twin do with the result `res` of the
cookie check: zero the options, then decode them if the MSS index is in the table, the
low bits are clear and the window scale is at most `DP_VS_SYNPROXY_WSCALE_MAX`. -/
def decodeCookieData (res : UInt32) : Bool × SynproxyOpt :=
  let opt : SynproxyOpt := ⟨0, false, false, false, 0⟩
  if res = 0xffffffff then (false, opt)
  else
    let mssind := (res &&& synproxyMssMask) >>> synproxyMssBits
    if mssind.toNat < numMss ∧ res &&& synproxyOtherMask = 0 then
      let opt := { opt with
        mssClamp := msstab.getD mssind.toNat 0 + 1
        sackOk := lowBit ((res &&& synproxySackokMask) >>> synproxySackokBit)
        tstampOk := lowBit ((res &&& synproxyTsokMask) >>> synproxyTsokBit)
        sndWscale := ((res &&& synproxySndWscaleMask) >>> synproxySndWscaleBits).toUInt8 }
      if opt.sndWscale > 0 ∧ opt.sndWscale ≤ synproxyWscaleMax then (true, { opt with wscaleOk := true })
      else if opt.sndWscale = 0 then (true, { opt with wscaleOk := false })
      else (false, opt)
    else (false, opt)

/-- The body shared by `syn_proxy_v4_cookie_check` and its v6 twin, with
`check cookie sseq count maxdiff` the cookie check of the ACK's tuple; `thSeq` is the
ACK's `ntohl(th->seq)`. -/
def cookieCheck (check : UInt32 → UInt32 → UInt32 → UInt32 → UInt32)
    (thSeq minuteCount cookie : UInt32) : Bool × SynproxyOpt :=
  decodeCookieData (check cookie (thSeq - 1) minuteCount dpVsSynproxyCounterTries)

/-- `syn_proxy_cookie_v4_init_sequence`. -/
def synProxyCookieV4InitSequence
    (cookieHash : UInt32 → UInt32 → UInt16 → UInt16 → UInt32 → Fin 2 → UInt32)
    (saddr daddr : UInt32) (source dest : UInt16) (seq minuteCount : UInt32)
    (opts : SynproxyOpt) : UInt32 × SynproxyOpt :=
  cookieInitSequence (secureTcpSynCookie cookieHash saddr daddr source dest) seq minuteCount opts

/-- `syn_proxy_cookie_v6_init_sequence`. -/
def synProxyCookieV6InitSequence
    (cookieHashV6 : InetAddr → InetAddr → UInt16 → UInt16 → UInt32 → Fin 2 → UInt32)
    (saddr daddr : InetAddr) (source dest : UInt16) (seq minuteCount : UInt32)
    (opts : SynproxyOpt) : UInt32 × SynproxyOpt :=
  cookieInitSequence (secureTcpSynCookieV6 cookieHashV6 saddr daddr source dest) seq minuteCount
    opts

/-- `syn_proxy_v4_cookie_check`: whether the cookie is good, and the options. -/
def synProxyV4CookieCheck
    (cookieHash : UInt32 → UInt32 → UInt16 → UInt16 → UInt32 → Fin 2 → UInt32)
    (saddr daddr : UInt32) (source dest : UInt16) (thSeq minuteCount cookie : UInt32) :
    Bool × SynproxyOpt :=
  cookieCheck (fun cookie seq count maxdiff =>
    checkTcpSynCookie cookieHash cookie saddr daddr source dest seq count maxdiff)
    thSeq minuteCount cookie

/-- `syn_proxy_v6_cookie_check`. -/
def synProxyV6CookieCheck
    (cookieHashV6 : InetAddr → InetAddr → UInt16 → UInt16 → UInt32 → Fin 2 → UInt32)
    (saddr daddr : InetAddr) (source dest : UInt16) (thSeq minuteCount cookie : UInt32) :
    Bool × SynproxyOpt :=
  cookieCheck (fun cookie seq count maxdiff =>
    checkTcpSynCookieV6 cookieHashV6 cookie saddr daddr source dest seq count maxdiff)
    thSeq minuteCount cookie

set_option maxRecDepth 100000 in
theorem decodeCookieData_checked : ∀ m : Fin 10, ∀ sack tstamp : Bool, ∀ w : Fin 15,
    cookieData m ⟨w.val.toUInt8, tstamp, false, sack, 0⟩ ≤ cookieMask ∧
      decodeCookieData (cookieData m ⟨w.val.toUInt8, tstamp, false, sack, 0⟩) =
        (true, ⟨w.val.toUInt8, tstamp, w.val.toUInt8 != 0, sack, msstab.getD m 0 + 1⟩) := by
  decide +kernel

/-- The data depends on the index and on three fields of the options only. -/
theorem cookieData_fields (mssind : Nat) (opts : SynproxyOpt) :
    cookieData mssind opts =
      cookieData mssind ⟨opts.sndWscale, opts.tstampOk, false, opts.sackOk, 0⟩ := rfl

/-- The options the init sequence writes into a cookie read back from it, with the window
scale flag set when the scale is not zero. -/
theorem decodeCookieData_cookieData {mssind : Nat} (lt : mssind < numMss) (opts : SynproxyOpt)
    (wscale : opts.sndWscale ≤ synproxyWscaleMax) :
    cookieData mssind opts ≤ cookieMask ∧
      decodeCookieData (cookieData mssind opts) =
        (true, { opts with mssClamp := msstab.getD mssind 0 + 1,
                           wscaleOk := opts.sndWscale != 0 }) := by
  obtain ⟨sndWscale, tstampOk, wscaleOk, sackOk, mssClamp⟩ := opts
  have small : sndWscale.toNat < 15 := by
    have := UInt8.le_iff_toNat_le.mp wscale
    simp only [synproxyWscaleMax, UInt8.reduceToNat] at this
    omega
  have checked := decodeCookieData_checked ⟨mssind, lt⟩ sackOk tstampOk ⟨sndWscale.toNat, small⟩
  simp only [UInt8.ofNat_toNat] at checked
  rw [cookieData_fields]
  exact checked

/-- The search stops inside the table as soon as an entry is not below `mss`. -/
theorem mssSearch_lt (mss : UInt16) (mssind : Nat) (l : List UInt16) (stop : ∃ x ∈ l, mss ≤ x) :
    mssSearch mss mssind l < mssind + l.length := by
  induction l generalizing mssind with
  | nil => simp at stop
  | cons next rest ih =>
    unfold mssSearch
    split
    · case isTrue above =>
      obtain ⟨x, mem, le⟩ := stop
      have later : ∃ x ∈ rest, mss ≤ x := by
        rcases List.mem_cons.mp mem with rfl | mem
        · exact absurd above (UInt16.not_lt.mpr le)
        · exact ⟨x, mem, le⟩
      have := ih (mssind + 1) later
      simp only [List.length_cons]
      omega
    · simp

/-- `msstab` ends with `(uint16_t)-1`, so the index is always one of the `NUM_MSS`. -/
theorem mssIndex_lt (mss : UInt16) : mssIndex mss < numMss :=
  mssSearch_lt mss 0 msstab.tail ⟨0xffff, by decide, UInt16.le_iff_toNat_le.mpr (by
    have := mss.toNat_lt
    simp only [UInt16.reduceToNat]
    omega)⟩

/-! ## The round trip -/

/-- Over any cookie hash: the check at a counter less than four minutes on, for the ACK
that follows the SYN, accepts the cookie and reads back the options the init sequence
left, with the window scale flag set when the scale is not zero. -/
theorem cookieCheck_cookieInitSequence (hash : UInt32 → Fin 2 → UInt32) (sseq c c' : UInt32)
    (opts : SynproxyOpt) (age : c' - c < 4) (wscale : opts.sndWscale ≤ synproxyWscaleMax) :
    cookieCheck (checkSynCookie hash) (sseq + 1) c'
        (cookieInitSequence (secureSynCookie hash) sseq c opts).1 =
      (true, { (cookieInitSequence (secureSynCookie hash) sseq c opts).2 with
                 wscaleOk := opts.sndWscale != 0 }) := by
  obtain ⟨small, decoded⟩ := decodeCookieData_cookieData (mssIndex_lt opts.mssClamp)
    { opts with mssClamp := msstab.getD (mssIndex opts.mssClamp) 0 + 1 } wscale
  have seq : sseq + 1 - 1 = sseq := by grind
  simp only [cookieCheck, cookieInitSequence, seq, dpVsSynproxyCounterTries,
    checkSynCookie_secureSynCookie hash sseq c c' _ age small, decoded]

theorem syn_cookie_round_trip
    (cookieHash : UInt32 → UInt32 → UInt16 → UInt16 → UInt32 → Fin 2 → UInt32)
    (cookieHashV6 : InetAddr → InetAddr → UInt16 → UInt16 → UInt32 → Fin 2 → UInt32)
    (saddr daddr : UInt32) (saddr6 daddr6 : InetAddr) (source dest : UInt16)
    (sseq c c' : UInt32) (opts : SynproxyOpt)
    (age : c' - c < 4) (wscale : opts.sndWscale ≤ synproxyWscaleMax) :
    (synProxyCookieV4InitSequence cookieHash saddr daddr source dest sseq c opts).2 =
        { opts with mssClamp := msstab.getD (mssIndex opts.mssClamp) 0 + 1 } ∧
      synProxyV4CookieCheck cookieHash saddr daddr source dest (sseq + 1) c'
          (synProxyCookieV4InitSequence cookieHash saddr daddr source dest sseq c opts).1 =
        (true, { opts with mssClamp := msstab.getD (mssIndex opts.mssClamp) 0 + 1,
                           wscaleOk := opts.sndWscale != 0 }) ∧
      (synProxyCookieV6InitSequence cookieHashV6 saddr6 daddr6 source dest sseq c opts).2 =
        { opts with mssClamp := msstab.getD (mssIndex opts.mssClamp) 0 + 1 } ∧
      synProxyV6CookieCheck cookieHashV6 saddr6 daddr6 source dest (sseq + 1) c'
          (synProxyCookieV6InitSequence cookieHashV6 saddr6 daddr6 source dest sseq c opts).1 =
        (true, { opts with mssClamp := msstab.getD (mssIndex opts.mssClamp) 0 + 1,
                           wscaleOk := opts.sndWscale != 0 }) :=
  ⟨rfl, cookieCheck_cookieInitSequence (cookieHash saddr daddr source dest) sseq c c' opts age wscale,
    rfl, cookieCheck_cookieInitSequence (cookieHashV6 saddr6 daddr6 source dest) sseq c c' opts age
      wscale⟩

/-- The round trip across the wrap of the minute counter, for a SYN with MSS 1460, window
scale 7, SACK and no timestamps. -/
theorem syn_cookie_round_trip_wrapped :
    (2 : UInt32) - 0xffffffff < 4 ∧ (7 : UInt8) ≤ synproxyWscaleMax ∧
      (synProxyCookieV4InitSequence (fun s d _ _ count c => s + d * count + c.val.toUInt32)
          0x0100000a 0x0200000a 1000 80 12345 0xffffffff ⟨7, false, false, true, 1460⟩).2 =
        ⟨7, false, false, true, msstab.getD (mssIndex 1460) 0 + 1⟩ ∧
      synProxyV4CookieCheck (fun s d _ _ count c => s + d * count + c.val.toUInt32)
          0x0100000a 0x0200000a 1000 80 (12345 + 1) 2
          (synProxyCookieV4InitSequence (fun s d _ _ count c => s + d * count + c.val.toUInt32)
            0x0100000a 0x0200000a 1000 80 12345 0xffffffff ⟨7, false, false, true, 1460⟩).1 =
        (true, ⟨7, false, (7 : UInt8) != 0, true, msstab.getD (mssIndex 1460) 0 + 1⟩) ∧
      (synProxyCookieV6InitSequence (fun _ _ _ _ count _ => count) ⟨1, 0, 0, 0⟩ ⟨2, 0, 0, 0⟩
          1000 80 12345 0xffffffff ⟨7, false, false, true, 1460⟩).2 =
        ⟨7, false, false, true, msstab.getD (mssIndex 1460) 0 + 1⟩ ∧
      synProxyV6CookieCheck (fun _ _ _ _ count _ => count) ⟨1, 0, 0, 0⟩ ⟨2, 0, 0, 0⟩
          1000 80 (12345 + 1) 2
          (synProxyCookieV6InitSequence (fun _ _ _ _ count _ => count) ⟨1, 0, 0, 0⟩ ⟨2, 0, 0, 0⟩
            1000 80 12345 0xffffffff ⟨7, false, false, true, 1460⟩).1 =
        (true, ⟨7, false, (7 : UInt8) != 0, true, msstab.getD (mssIndex 1460) 0 + 1⟩) :=
  ⟨by decide, by decide,
    syn_cookie_round_trip (fun s d _ _ count c => s + d * count + c.val.toUInt32)
      (fun _ _ _ _ count _ => count) 0x0100000a 0x0200000a ⟨1, 0, 0, 0⟩ ⟨2, 0, 0, 0⟩ 1000 80
      12345 0xffffffff 2 ⟨7, false, false, true, 1460⟩ (by decide) (by decide)⟩

end Dpvs
