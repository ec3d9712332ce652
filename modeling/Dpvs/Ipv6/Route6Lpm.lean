import Dpvs.Basic

/-!
# IPv6 routes of one lcore over LPM6

`src/ipv6/route6_lpm.c` keeps, per lcore, an `rte_lpm6` table whose rules carry a
32-bit next hop, an array `rt6_array->entries` indexed by that next hop, and hash
lists of every configured route for the control plane. Routes of one prefix on
different devices share one LPM6 rule and one slot: the slot holds a singly linked
chain of `struct lpm6_route`, each with the next hop it was filed under. The route
`::/0`, which LPM6 cannot hold, is kept aside in `this_rt6_default`.

The chain is pointer surgery, so the model keeps a heap: the `lpm6_route` objects
by address, each with its `next` pointer; a slot and a hash list hold addresses.
Freeing an object removes it from the heap, and a walk that reaches a freed
address, or that does not end, is a fault (`none`), as is a failed `assert`.

`rte_lpm6` is DPDK's, not part of the source, so its calls are a parameter:
`Lpm6Api` gathers them over a table of any type and `Lpm6Api.Spec` states what the
API documents, observed through `rte_lpm6_is_rule_present`. Whether an add finds
room is an outcome of the call, as an allocation's is. A list of rules,
`ruleListApi`, meets the documentation, so the assumption is a consistent one.
`rte_jhash_32b` and `netif_port_get_by_name` are fields of the lcore's environment. Addresses are the four 32-bit words of
`struct in6_addr` as a little-endian host loads them.
-/

namespace Dpvs.Route6Lpm

/-- The fields of `struct netif_port` the route code reads. -/
structure Dev where
  id : UInt16
  name : String
  mtu : UInt16
  deriving DecidableEq, Repr

/-- `rt_addr_t`: an address and a prefix length. -/
structure RtAddr where
  addr : InetAddr
  plen : Int
  deriving DecidableEq, Repr

/-- `struct route6`, its hash link left to the hash lists. -/
structure Route6 where
  dst : RtAddr
  src : RtAddr
  prefsrc : RtAddr
  gateway : InetAddr
  dev : Option Dev
  mtu : UInt32
  flags : UInt32
  refcnt : Int
  deriving DecidableEq, Repr

/-- `struct lpm6_route`: a route, the LPM6 next hop it is filed under, and the next
route of its chain. -/
structure Lpm6Route where
  entry : Route6
  lpmNexthop : Nat
  next : Option Nat
  deriving DecidableEq, Repr

/-- `struct dp_vs_route6_conf` as the lcore functions read it. -/
structure Route6Conf where
  dst : RtAddr
  src : RtAddr
  prefsrc : RtAddr
  ifname : String
  gateway : InetAddr
  mtu : UInt32
  flags : UInt32
  deriving DecidableEq, Repr

/-- What every lcore shares: `g_lpm6_conf_max_rules` and `g_rt6_hash_bucket`, which
the config handlers keep within `[16, 65536]`, `rte_jhash_32b` over four words with
an initial value, and the device table. -/
structure Rt6Env where
  maxRules : Nat
  hashBucket : Nat
  maxRules_ge : 16 ≤ maxRules
  hashBucket_ge : 16 ≤ hashBucket
  jhash32b : List UInt32 → UInt32 → UInt32
  portByName : String → Option Dev

/-- One lcore's IPv6 route state: the LPM6 table, `rt6_array` (`num`, `cursor`,
`entries`), the `lpm6_route` heap, the hash lists and `this_rt6_default`. -/
structure Rt6Lcore (τ : Type) where
  lpm6 : τ
  num : Nat
  cursor : Nat
  entries : Nat → Option Nat
  heap : List (Nat × Lpm6Route)
  rt6Hash : Nat → List Nat
  defaultRoute : Option Route6

/-! ## Addresses and prefixes -/

/-- `ipv6_addr_any`. -/
def ipv6AddrAny (a : InetAddr) : Bool := (a.w0 ||| a.w1 ||| a.w2 ||| a.w3) == 0

/-- `ipv6_prefix_equal`: the whole words of the prefix by `memcmp`, then the
remaining bits under the mask `htonl(0xffffffff << (32 - pbi))`. -/
def ipv6PrefixEqual (a b : InetAddr) (prefixlen : Nat) : Bool :=
  let pdw := prefixlen >>> 5
  let pbi := prefixlen &&& 0x1f
  let full : UInt32 := 0xffffffff
  (pdw == 0 || a.words.take pdw == b.words.take pdw) &&
    (pbi == 0 ||
      ((a.words.getD pdw 0 ^^^ b.words.getD pdw 0) &&&
        beToCpu32 (full <<< (32 - pbi).toUInt32)) == 0)

/-- `rt6_default`: the prefix `::/0`. -/
def rt6Default (p : RtAddr) : Bool := ipv6AddrAny p.addr && p.plen == 0

/-- `rt6_hash_key`: `rte_jhash_32b` of the address with the prefix length as initial
value, modulo the bucket count. -/
def rt6HashKey (env : Rt6Env) (p : RtAddr) : Nat :=
  (env.jhash32b p.addr.words (UInt32.ofInt p.plen)).toNat % env.hashBucket

/-- The `(uint8_t)` cast the code applies to a prefix length before LPM6 sees it. -/
def plenDepth (plen : Int) : Nat := (plen % 256).toNat

/-! ## `rte_lpm6` as documented -/

/-- A depth `rte_lpm6` accepts; the calls return `-EINVAL` for any other. -/
def Lpm6Depth (d : Nat) : Prop := 1 ≤ d ∧ d ≤ 128

instance (d : Nat) : Decidable (Lpm6Depth d) := inferInstanceAs (Decidable (1 ≤ d ∧ d ≤ 128))

/-- The calls of `rte_lpm6` that `route6_lpm.c` makes, on a table of type `τ`:
`rte_lpm6_create`, `rte_lpm6_is_rule_present` (`none` for a negative return, else the
next hop of the rule if there is one), `rte_lpm6_add` once it has found room,
`rte_lpm6_delete` (`none` for a negative return), `rte_lpm6_delete_all` and
`rte_lpm6_lookup` (`none` for a miss). -/
structure Lpm6Api (τ : Type) where
  create : τ
  isRulePresent : τ → InetAddr → Nat → Option (Option Nat)
  add : τ → InetAddr → Nat → Nat → τ
  delete : τ → InetAddr → Nat → Option τ
  deleteAll : τ → τ
  lookup : τ → InetAddr → Option Nat

/-- What the API documents. A rule is a prefix at a depth in `1..128`, the first
`depth` bits of an address as `ipv6_prefix_equal` compares them; a new or emptied
table holds none; an add files its next hop under the prefix, over the rule's old
one; a delete removes the rule and, as `route6_lpm.c` notes at its call, returns `0`
also when there is none; a lookup gives the next hop of the deepest rule that holds
the address. -/
structure Lpm6Api.Spec {τ : Type} (api : Lpm6Api τ) : Prop where
  isRulePresent_invalid : ∀ tb ip d, ¬ Lpm6Depth d → api.isRulePresent tb ip d = none
  isRulePresent_create : ∀ ip d, Lpm6Depth d → api.isRulePresent api.create ip d = some none
  isRulePresent_add : ∀ tb ip d nh ip' d', Lpm6Depth d' →
    api.isRulePresent (api.add tb ip d nh) ip' d' =
      if d' = d ∧ ipv6PrefixEqual ip ip' d then some (some nh) else api.isRulePresent tb ip' d'
  delete_invalid : ∀ tb ip d, ¬ Lpm6Depth d → api.delete tb ip d = none
  delete_valid : ∀ tb ip d, Lpm6Depth d → ∃ tb', api.delete tb ip d = some tb' ∧
    ∀ ip' d', Lpm6Depth d' → api.isRulePresent tb' ip' d' =
      if d' = d ∧ ipv6PrefixEqual ip ip' d then some none else api.isRulePresent tb ip' d'
  isRulePresent_deleteAll : ∀ tb ip d, Lpm6Depth d →
    api.isRulePresent (api.deleteAll tb) ip d = some none
  lookup_eq_some : ∀ tb a nh, api.lookup tb a = some nh ↔
    ∃ d, Lpm6Depth d ∧ api.isRulePresent tb a d = some (some nh) ∧
      ∀ d', d < d' → d' ≤ 128 → api.isRulePresent tb a d' = some none

/-- The state `rt6_lpm_setup_lcore` leaves: a new LPM6 table, everything else empty
and zeroed. -/
def Rt6Lcore.empty {τ : Type} (api : Lpm6Api τ) : Rt6Lcore τ :=
  ⟨api.create, 0, 0, fun _ => none, [], fun _ => [], none⟩

/-! ## The heap of `lpm6_route` objects -/

/-- The object at an address, `none` once freed. -/
def heapGet (heap : List (Nat × Lpm6Route)) (a : Nat) : Option Lpm6Route := heap.lookup a

/-- Write the `next` pointer of the object at `a`. -/
def heapSetNext (heap : List (Nat × Lpm6Route)) (a : Nat) (next : Option Nat) :
    List (Nat × Lpm6Route) :=
  heap.map fun cell => if cell.1 = a then (cell.1, { cell.2 with next }) else cell

/-- `route6_free` of the object at `a`. -/
def heapFree (heap : List (Nat × Lpm6Route)) (a : Nat) : List (Nat × Lpm6Route) :=
  heap.filter fun cell => cell.1 ≠ a

/-- Walk a chain from `cur` to the first route that passes `p`: `some (some a)` for its
address, `some none` at the end of the chain, `none` at a freed address or when the
walk outlasts its fuel. -/
def chainFind (heap : List (Nat × Lpm6Route)) (p : Route6 → Bool) :
    Nat → Option Nat → Option (Option Nat)
  | _, none => some none
  | 0, some _ => none
  | fuel + 1, some a =>
    match heapGet heap a with
    | none => none
    | some node => if p node.entry then some (some a) else chainFind heap p fuel node.next

/-! ## The lcore functions -/

section Lcore

variable {τ : Type}

/-- `rt6_fill_with_cfg`, with the reference `rte_atomic32_set` gives it. -/
def rt6FillWithCfg (env : Rt6Env) (cf : Route6Conf) : Route6 :=
  let dev := env.portByName cf.ifname
  { dst := cf.dst, src := cf.src, prefsrc := cf.prefsrc, dev, gateway := cf.gateway,
    flags := cf.flags,
    mtu := match dev with
      | some d => if cf.mtu = 0 then d.mtu.toUInt32 else cf.mtu
      | none => cf.mtu
    refcnt := 1 }

/-- `rt6_find_free_array_idx`: `EDPVS_NOROOM` at `max_rules` routes, else the first
empty slot after the cursor, going round; the loop stops on reaching the cursor
again without testing it, and then reports `EDPVS_INVAL`. -/
def rt6FindFreeArrayIdx (env : Rt6Env) (t : Rt6Lcore τ) : Except Edpvs Nat :=
  if t.num ≥ env.maxRules then .error .noroom
  else
    match (List.range' 1 (env.maxRules - 1)).find?
        (fun k => (t.entries ((t.cursor + k) % env.maxRules)).isNone) with
    | some k => .ok ((t.cursor + k) % env.maxRules)
    | none => .error .inval

/-- `rt6_add_lcore_default`. -/
def rt6AddLcoreDefault (env : Rt6Env) (allocOk : Bool) (t : Rt6Lcore τ) (cfg : Route6Conf) :
    Edpvs × Rt6Lcore τ :=
  if t.defaultRoute.isSome then (.exist, t)
  else if !allocOk then (.nomem, t)
  else (.ok, { t with defaultRoute := some (rt6FillWithCfg env cfg) })

/-- `rt6_del_lcore_default`. -/
def rt6DelLcoreDefault (t : Rt6Lcore τ) : Edpvs × Rt6Lcore τ :=
  if t.defaultRoute.isNone then (.notexist, t) else (.ok, { t with defaultRoute := none })

/-- The tail of `rt6_lpm_add_lcore`: the new object at `a` goes in front of the chain
of slot `nh` and at the tail of its hash list, and `num` grows. -/
def rt6Link (env : Rt6Env) (t : Rt6Lcore τ) (a : Nat) (entry : Route6) (nh : Nat)
    (head : Option Nat) : Rt6Lcore τ :=
  let key := rt6HashKey env entry.dst
  { t with
    heap := (a, ⟨entry, nh, head⟩) :: t.heap
    entries := Function.update t.entries nh (some a)
    rt6Hash := Function.update t.rt6Hash key (t.rt6Hash key ++ [a])
    num := t.num + 1 }

/-- `rt6_lpm_add_lcore`. `alloc` is the address `rte_zmalloc` returns, if any, and
`lpmAddOk` whether `rte_lpm6_add` finds room. A failed `rte_lpm6_add` comes after
the cursor has moved. -/
def rt6LpmAddLcore (env : Rt6Env) (api : Lpm6Api τ) (alloc : Option Nat) (lpmAddOk : Bool)
    (t : Rt6Lcore τ) (cfg : Route6Conf) : Option (Edpvs × Rt6Lcore τ) :=
  if t.num ≥ env.maxRules then some (.noroom, t)
  else if rt6Default cfg.dst then some (rt6AddLcoreDefault env alloc.isSome t cfg)
  else match alloc with
    | none => some (.nomem, t)
    | some a =>
      let entry := rt6FillWithCfg env cfg
      let depth := plenDepth cfg.dst.plen
      match api.isRulePresent t.lpm6 cfg.dst.addr depth with
      -- a negative return passes the test and leaves the next hop unset
      | none => none
      | some (some nh) =>
        match t.entries nh with
        | none => none
        | some head => some (.ok, rt6Link env t a entry nh (some head))
      | some none =>
        match rt6FindFreeArrayIdx env t with
        | .error e => some (e, t)
        | .ok nh =>
          let t := { t with cursor := nh }
          if lpmAddOk then
            some (.ok, rt6Link env { t with lpm6 := api.add t.lpm6 entry.dst.addr depth nh }
              a entry nh none)
          else some (.dpdkapifail, t)

/-- The chain unlink that `rt6_lpm_del_lcore` and `rt6_lpm_flush_lcore` both write
out, for the object at `a`: a victim behind the head is cut out by
`head->next = lpm6rt->next`; a head with a successor hands the slot over; a lone
head takes the LPM6 rule with it. The flag says that `rte_lpm6_delete` failed, in
which case the slot is cleared all the same. `none`: the slot is `NULL` or its head
freed. -/
def chainUnlink (api : Lpm6Api τ) (t : Rt6Lcore τ) (a : Nat) (node : Lpm6Route) :
    Option (Bool × Rt6Lcore τ) :=
  let nh := node.lpmNexthop
  match t.entries nh with
  | none => none
  | some head =>
    if a ≠ head then
      match heapGet t.heap head with
      | none => none
      | some _ => some (false, { t with heap := heapSetNext t.heap head node.next })
    else match node.next with
      | some succ => some (false, { t with entries := Function.update t.entries nh (some succ) })
      | none =>
        let cleared := Function.update t.entries nh none
        match api.delete t.lpm6 node.entry.dst.addr (plenDepth node.entry.dst.plen) with
        | none => some (true, { t with entries := cleared })
        | some lpm6 => some (false, { t with lpm6, entries := cleared })

/-- The test by which `rt6_lpm_del_lcore` picks its victim: same prefix length, same
prefix, and the device named in the request unless the route has none. -/
def delMatch (cfg : Route6Conf) (r : Route6) : Bool :=
  r.dst.plen == cfg.dst.plen && ipv6PrefixEqual r.dst.addr cfg.dst.addr (cfg.dst.plen % 4294967296).toNat &&
    (match r.dev with
     | none => true
     | some d => cfg.ifname == d.name)

/-- `rt6_lpm_del_lcore`: the first route of the request's hash list that `delMatch`
accepts is unlinked from its chain and its hash list and freed. A request that
matches nothing still returns `EDPVS_OK`; a failed `rte_lpm6_delete` returns
`EDPVS_DPDKAPIFAIL` before anything is written back. -/
def rt6LpmDelLcore (env : Rt6Env) (api : Lpm6Api τ) (t : Rt6Lcore τ) (cfg : Route6Conf) :
    Option (Edpvs × Rt6Lcore τ) :=
  if rt6Default cfg.dst then some (rt6DelLcoreDefault t)
  else
    let key := rt6HashKey env cfg.dst
    let hit := fun a => match heapGet t.heap a with
      | some node => delMatch cfg node.entry
      | none => false
    match (t.rt6Hash key).find? hit with
    | none => some (.ok, t)
    | some a =>
      match heapGet t.heap a with
      | none => none
      | some node =>
        match chainUnlink api t a node with
        | none => none
        | some (true, _) => some (.dpdkapifail, t)
        | some (false, t') =>
          some (.ok, { t' with
            rt6Hash := Function.update t'.rt6Hash key ((t'.rt6Hash key).erase a)
            heap := heapFree t'.heap a
            num := t'.num - 1 })

/-- One entry of the flush loop over bucket `i`: a route that goes is unlinked from
its chain (unless everything goes), taken off the bucket, counted down and freed. -/
def flushEntry (api : Lpm6Api τ) (flushAll : Bool) (ifname : String) (i : Nat)
    (t : Option (Rt6Lcore τ)) (a : Nat) : Option (Rt6Lcore τ) := do
  let t ← t
  let node ← heapGet t.heap a
  let goes := flushAll || (match node.entry.dev with
    | some d => d.name == ifname
    | none => false)
  if goes then
    let t ← if flushAll then some t else (chainUnlink api t a node).map Prod.snd
    some { t with
      rt6Hash := Function.update t.rt6Hash i ((t.rt6Hash i).erase a)
      heap := heapFree t.heap a
      num := t.num - 1 }
  else some t

/-- `rt6_lpm_flush_lcore`: the routes of the named device, or all routes when the
request names none (then the LPM6 table, the cursor and the slots are reset). The
loop over a bucket only ever unlinks the entry it stands on, so it runs over the
bucket as it was. -/
def rt6LpmFlushLcore (env : Rt6Env) (api : Lpm6Api τ) (t : Rt6Lcore τ)
    (cfg : Option Route6Conf) : Option (Edpvs × Rt6Lcore τ) :=
  let ifname := (cfg.map Route6Conf.ifname).getD ""
  let flushAll := ifname.isEmpty
  let t0 := if flushAll then { t with lpm6 := api.deleteAll t.lpm6 } else t
  let swept := (List.range env.hashBucket).foldl
    (fun acc i => match acc with
      | none => none
      | some t => (t.rt6Hash i).foldl (flushEntry api flushAll ifname i) (some t)) (some t0)
  swept.map fun t =>
    (.ok, if flushAll then { t with cursor := 0, entries := fun _ => none } else t)

/-- `rt6_lpm_lookup`: the LPM6 next hop of the address, then the first route of the
slot's chain on the flow's output device (or on any device when either side has
none), taking a reference on it; without an LPM6 hit, the default route. -/
def rt6LpmLookup (api : Lpm6Api τ) (t : Rt6Lcore τ) (daddr : InetAddr) (oif : Option Dev) :
    Option (Option Route6 × Rt6Lcore τ) :=
  match api.lookup t.lpm6 daddr with
  | none =>
    match t.defaultRoute with
    | none => some (none, t)
    | some r =>
      let r := { r with refcnt := r.refcnt + 1 }
      some (some r, { t with defaultRoute := some r })
  | some idx =>
    let onDev := fun r : Route6 => match r.dev, oif with
      | some d, some o => d.id == o.id
      | _, _ => true
    match chainFind t.heap onDev (t.heap.length + 1) (t.entries idx) with
    | none => none
    | some none => some (none, t)
    | some (some a) =>
      match heapGet t.heap a with
      | none => none
      | some node =>
        let node := { node with entry := { node.entry with refcnt := node.entry.refcnt + 1 } }
        some (some node.entry,
          { t with heap := t.heap.map fun cell => if cell.1 = a then (a, node) else cell })

/-! ## Runs of control-plane calls -/

/-- The control-plane calls an lcore applies to its routes, with the outcomes of
the allocations and LPM6 adds they make. -/
inductive Rt6Call where
  | add (alloc : Option Nat) (lpmAddOk : Bool) (cfg : Route6Conf)
  | del (cfg : Route6Conf)
  | flush (cfg : Option Route6Conf)

/-- One call. -/
def rt6Apply (env : Rt6Env) (api : Lpm6Api τ) (t : Rt6Lcore τ) :
    Rt6Call → Option (Edpvs × Rt6Lcore τ)
  | .add alloc lpmAddOk cfg => rt6LpmAddLcore env api alloc lpmAddOk t cfg
  | .del cfg => rt6LpmDelLcore env api t cfg
  | .flush cfg => rt6LpmFlushLcore env api t cfg

/-- A run of calls; `none` from the first call that faults on. -/
def rt6Run (env : Rt6Env) (api : Lpm6Api τ) (t : Rt6Lcore τ) : List Rt6Call → Option (Rt6Lcore τ)
  | [] => some t
  | c :: cs => (rt6Apply env api t c).bind fun r => rt6Run env api r.2 cs

end Lcore

/-! ## The lcore functions see LPM6 only through its API

Two lcore states whose tables answer every `rte_lpm6_is_rule_present` alike go
through every call alike, when both tables meet the documentation: the return codes,
the arrays, the heap and the hash lists stay equal, and the tables keep answering
alike. What the route code does is so fixed by the documentation alone. -/

/-- A fold that keeps a relation between two accumulators at each step keeps it to
the end. -/
theorem foldl_rel {α β γ : Type} {R : α → β → Prop} {f : α → γ → α} {g : β → γ → β}
    (step : ∀ x y c, R x y → R (f x c) (g y c)) :
    ∀ (l : List γ) (x : α) (y : β), R x y → R (l.foldl f x) (l.foldl g y)
  | [], _, _, h => h
  | c :: l, x, y, h => foldl_rel step l (f x c) (g y c) (step x y c h)

/-- Two options related, mapped by functions that keep a relation, stay related. -/
theorem rel_map_of {α β γ δ : Type} {R : α → β → Prop} {S : γ → δ → Prop}
    {f : α → γ} {g : β → δ} {x : Option α} {y : Option β} (h : Option.Rel R x y)
    (hfg : ∀ a b, R a b → S (f a) (g b)) : Option.Rel S (x.map f) (y.map g) := by
  cases h with
  | some r => exact .some (hfg _ _ r)
  | none => exact .none

/-- Two options related, then mapped by functions that agree on related values, are
equal. -/
theorem rel_map_eq {α β γ : Type} {R : α → β → Prop} {x : Option α} {y : Option β}
    (h : Option.Rel R x y) {f : α → γ} {g : β → γ} (hfg : ∀ a b, R a b → f a = g b) :
    x.map f = y.map g := by
  cases h with
  | some r => exact congrArg some (hfg _ _ r)
  | none => rfl

/-- Two options related, then bound to functions that agree on related values, are
equal. -/
theorem rel_bind_eq {α β γ : Type} {R : α → β → Prop} {x : Option α} {y : Option β}
    (h : Option.Rel R x y) {f : α → Option γ} {g : β → Option γ}
    (hfg : ∀ a b, R a b → f a = g b) : x.bind f = y.bind g := by
  cases h with
  | some r => exact hfg _ _ r
  | none => rfl

section Agree

variable {τ σ : Type} {api : Lpm6Api τ} {api' : Lpm6Api σ}

/-- Two tables that hold the same rules, as `rte_lpm6_is_rule_present` sees them. -/
def Lpm6Api.Same (api : Lpm6Api τ) (tb : τ) (api' : Lpm6Api σ) (tb' : σ) : Prop :=
  ∀ ip d, api.isRulePresent tb ip d = api'.isRulePresent tb' ip d

/-- The state with another LPM6 table. -/
def Rt6Lcore.setLpm6 (t : Rt6Lcore τ) (tb : σ) : Rt6Lcore σ :=
  ⟨tb, t.num, t.cursor, t.entries, t.heap, t.rt6Hash, t.defaultRoute⟩

/-- Two lcore states that differ only in LPM6 tables that hold the same rules. -/
structure Rt6Lcore.Agree (api : Lpm6Api τ) (api' : Lpm6Api σ) (t : Rt6Lcore τ)
    (t' : Rt6Lcore σ) : Prop where
  eq : t' = t.setLpm6 t'.lpm6
  same : api.Same t.lpm6 api' t'.lpm6

/-- Two results of one call alike: the same return value, and agreeing states. -/
structure Rt6Lcore.ResultAgree {α : Type} (api : Lpm6Api τ) (api' : Lpm6Api σ)
    (r : α × Rt6Lcore τ) (r' : α × Rt6Lcore σ) : Prop where
  code : r.1 = r'.1
  state : Rt6Lcore.Agree api api' r.2 r'.2

@[simp] theorem Rt6Lcore.setLpm6_lpm6 (t : Rt6Lcore τ) (tb : σ) : (t.setLpm6 tb).lpm6 = tb := rfl
@[simp] theorem Rt6Lcore.setLpm6_num (t : Rt6Lcore τ) (tb : σ) : (t.setLpm6 tb).num = t.num := rfl
@[simp] theorem Rt6Lcore.setLpm6_cursor (t : Rt6Lcore τ) (tb : σ) :
    (t.setLpm6 tb).cursor = t.cursor := rfl
@[simp] theorem Rt6Lcore.setLpm6_entries (t : Rt6Lcore τ) (tb : σ) :
    (t.setLpm6 tb).entries = t.entries := rfl
@[simp] theorem Rt6Lcore.setLpm6_heap (t : Rt6Lcore τ) (tb : σ) : (t.setLpm6 tb).heap = t.heap := rfl
@[simp] theorem Rt6Lcore.setLpm6_rt6Hash (t : Rt6Lcore τ) (tb : σ) :
    (t.setLpm6 tb).rt6Hash = t.rt6Hash := rfl
@[simp] theorem Rt6Lcore.setLpm6_defaultRoute (t : Rt6Lcore τ) (tb : σ) :
    (t.setLpm6 tb).defaultRoute = t.defaultRoute := rfl

theorem Rt6Lcore.agree_setLpm6 {t : Rt6Lcore τ} {tb : σ} (same : api.Same t.lpm6 api' tb) :
    Rt6Lcore.Agree api api' t (t.setLpm6 tb) :=
  ⟨rfl, same⟩

/-- Two agreeing states are one state and a table. -/
theorem Rt6Lcore.Agree.exists_eq {t : Rt6Lcore τ} {t' : Rt6Lcore σ}
    (h : Rt6Lcore.Agree api api' t t') : ∃ tb, t' = t.setLpm6 tb ∧ api.Same t.lpm6 api' tb :=
  ⟨t'.lpm6, h.eq, h.same⟩

/-- One return value and two agreeing states. -/
theorem Rt6Lcore.rel_some {α : Type} {c : α} {t : Rt6Lcore τ} {t' : Rt6Lcore σ}
    (h : Rt6Lcore.Agree api api' t t') :
    Option.Rel (Rt6Lcore.ResultAgree api api') (some (c, t)) (some (c, t')) :=
  .some ⟨rfl, h⟩

theorem rt6FindFreeArrayIdx_setLpm6 (env : Rt6Env) (t : Rt6Lcore τ) (tb : σ) :
    rt6FindFreeArrayIdx env (t.setLpm6 tb) = rt6FindFreeArrayIdx env t := rfl

theorem rt6AddLcoreDefault_agree {env : Rt6Env} {t : Rt6Lcore τ} {t' : Rt6Lcore σ}
    (h : Rt6Lcore.Agree api api' t t') (allocOk : Bool) (cfg : Route6Conf) :
    Rt6Lcore.ResultAgree api api' (rt6AddLcoreDefault env allocOk t cfg)
      (rt6AddLcoreDefault env allocOk t' cfg) := by
  obtain ⟨tb, rfl, same⟩ := h.exists_eq
  unfold rt6AddLcoreDefault
  dsimp only [Rt6Lcore.setLpm6]
  by_cases held : t.defaultRoute.isSome
  · simp only [held, ↓reduceIte]
    exact ⟨rfl, rfl, same⟩
  by_cases failed : (!allocOk) = true
  · simp only [held, failed]
    exact ⟨rfl, rfl, same⟩
  · simp only [held, failed]
    exact ⟨rfl, rfl, same⟩

theorem rt6DelLcoreDefault_agree {t : Rt6Lcore τ} {t' : Rt6Lcore σ}
    (h : Rt6Lcore.Agree api api' t t') :
    Rt6Lcore.ResultAgree api api' (rt6DelLcoreDefault t) (rt6DelLcoreDefault t') := by
  obtain ⟨tb, rfl, same⟩ := h.exists_eq
  unfold rt6DelLcoreDefault
  dsimp only [Rt6Lcore.setLpm6]
  by_cases held : t.defaultRoute.isNone
  · simp only [held, ↓reduceIte]
    exact ⟨rfl, rfl, same⟩
  · simp only [held]
    exact ⟨rfl, rfl, same⟩

section Spec

variable (spec : api.Spec) (spec' : api'.Spec)
include spec spec'

/-- Tables that agree at every depth LPM6 accepts agree: at any other, both calls fail. -/
theorem Lpm6Api.Same.of_valid {tb : τ} {tb' : σ}
    (h : ∀ ip d, Lpm6Depth d → api.isRulePresent tb ip d = api'.isRulePresent tb' ip d) :
    api.Same tb api' tb' := by
  intro ip d
  by_cases hd : Lpm6Depth d
  · exact h ip d hd
  · rw [spec.isRulePresent_invalid tb ip d hd, spec'.isRulePresent_invalid tb' ip d hd]

theorem Lpm6Api.same_create : api.Same api.create api' api'.create :=
  .of_valid spec spec' fun ip d hd => by
    rw [spec.isRulePresent_create ip d hd, spec'.isRulePresent_create ip d hd]

theorem Lpm6Api.same_deleteAll (tb : τ) (tb' : σ) :
    api.Same (api.deleteAll tb) api' (api'.deleteAll tb') :=
  .of_valid spec spec' fun ip d hd => by
    rw [spec.isRulePresent_deleteAll tb ip d hd, spec'.isRulePresent_deleteAll tb' ip d hd]

variable {tb : τ} {tb' : σ}

theorem Lpm6Api.Same.add (same : api.Same tb api' tb') (ip : InetAddr) (d nh : Nat) :
    api.Same (api.add tb ip d nh) api' (api'.add tb' ip d nh) :=
  .of_valid spec spec' fun ip' d' hd' => by
    rw [spec.isRulePresent_add tb ip d nh ip' d' hd', spec'.isRulePresent_add tb' ip d nh ip' d' hd',
      same ip' d']

/-- A delete fails on both tables, or succeeds on both and leaves them agreeing. -/
theorem Lpm6Api.Same.delete (same : api.Same tb api' tb') (ip : InetAddr) (d : Nat) :
    (api.delete tb ip d = none ∧ api'.delete tb' ip d = none) ∨
      ∃ u u', api.delete tb ip d = some u ∧ api'.delete tb' ip d = some u' ∧ api.Same u api' u' := by
  by_cases hd : Lpm6Depth d
  · obtain ⟨u, hu, ru⟩ := spec.delete_valid tb ip d hd
    obtain ⟨u', hu', ru'⟩ := spec'.delete_valid tb' ip d hd
    refine .inr ⟨u, u', hu, hu', .of_valid spec spec' fun ip' d' hd' => ?_⟩
    rw [ru ip' d' hd', ru' ip' d' hd', same ip' d']
  · exact .inl ⟨spec.delete_invalid tb ip d hd, spec'.delete_invalid tb' ip d hd⟩

/-- Tables with the same rules give every address the same longest match. -/
theorem Lpm6Api.Same.lookup (same : api.Same tb api' tb') (a : InetAddr) :
    api.lookup tb a = api'.lookup tb' a := by
  apply Option.ext
  intro nh
  rw [spec.lookup_eq_some, spec'.lookup_eq_some]
  simp only [same a]

end Spec

/-! The calls, one lemma each. In each, the guards read the same fields on both sides
and the table is asked the same questions, so the two runs take the same branch. -/

section Calls

variable (spec : api.Spec) (spec' : api'.Spec) {env : Rt6Env} {t : Rt6Lcore τ} {t' : Rt6Lcore σ}
include spec spec'

theorem rt6LpmAddLcore_agree (h : Rt6Lcore.Agree api api' t t') (alloc : Option Nat)
    (lpmAddOk : Bool) (cfg : Route6Conf) :
    Option.Rel (Rt6Lcore.ResultAgree api api') (rt6LpmAddLcore env api alloc lpmAddOk t cfg)
      (rt6LpmAddLcore env api' alloc lpmAddOk t' cfg) := by
  obtain ⟨tb, rfl, same⟩ := h.exists_eq
  have agree := Rt6Lcore.agree_setLpm6 same
  unfold rt6LpmAddLcore
  rw [rt6FindFreeArrayIdx_setLpm6]
  dsimp only [Rt6Lcore.setLpm6_num, Rt6Lcore.setLpm6_lpm6, Rt6Lcore.setLpm6_entries]
  rw [← same cfg.dst.addr]
  by_cases room : t.num ≥ env.maxRules
  · simp only [room, ↓reduceIte]
    exact Rt6Lcore.rel_some agree
  by_cases dflt : rt6Default cfg.dst
  · simp only [room, dflt, ↓reduceIte]
    exact .some (rt6AddLcoreDefault_agree agree _ cfg)
  simp only [room, dflt, ↓reduceIte]
  cases alloc with
  | none => exact Rt6Lcore.rel_some agree
  | some a =>
    dsimp only
    rcases api.isRulePresent t.lpm6 cfg.dst.addr (plenDepth cfg.dst.plen) with _ | _ | nh
    · exact .none
    · -- a new prefix: the same slot on both sides, and the same rule added
      dsimp only
      cases rt6FindFreeArrayIdx env t with
      | error e => exact Rt6Lcore.rel_some agree
      | ok nh =>
        dsimp only
        cases lpmAddOk
        · exact Rt6Lcore.rel_some ⟨rfl, same⟩
        · exact Rt6Lcore.rel_some ⟨rfl, same.add spec spec' _ _ _⟩
    · dsimp only
      cases t.entries nh with
      | none => exact .none
      | some head => exact Rt6Lcore.rel_some ⟨rfl, same⟩

/-- The unlink asks LPM6 for a delete only when the victim is a lone head; then both
deletes fail, or both succeed on tables that keep agreeing. -/
theorem chainUnlink_agree (h : Rt6Lcore.Agree api api' t t') (a : Nat) (node : Lpm6Route) :
    Option.Rel (Rt6Lcore.ResultAgree api api') (chainUnlink api t a node)
      (chainUnlink api' t' a node) := by
  obtain ⟨tb, rfl, same⟩ := h.exists_eq
  unfold chainUnlink
  dsimp only [Rt6Lcore.setLpm6_entries, Rt6Lcore.setLpm6_heap, Rt6Lcore.setLpm6_lpm6]
  cases t.entries node.lpmNexthop with
  | none => exact .none
  | some head =>
    dsimp only
    by_cases victim : a = head
    · simp only [victim, ne_eq, not_true_eq_false, ↓reduceIte]
      cases node.next with
      | some succ => exact Rt6Lcore.rel_some ⟨rfl, same⟩
      | none =>
        dsimp only
        rcases same.delete spec spec' node.entry.dst.addr (plenDepth node.entry.dst.plen) with
          ⟨fail, fail'⟩ | ⟨u, u', del, del', same'⟩
        · rw [fail, fail']
          exact Rt6Lcore.rel_some ⟨rfl, same⟩
        · rw [del, del']
          exact Rt6Lcore.rel_some ⟨rfl, same'⟩
    · simp only [victim, ne_eq, not_false_eq_true, ↓reduceIte]
      cases heapGet t.heap head with
      | none => exact .none
      | some _ => exact Rt6Lcore.rel_some ⟨rfl, same⟩

theorem rt6LpmDelLcore_agree (h : Rt6Lcore.Agree api api' t t') (cfg : Route6Conf) :
    Option.Rel (Rt6Lcore.ResultAgree api api') (rt6LpmDelLcore env api t cfg)
      (rt6LpmDelLcore env api' t' cfg) := by
  have unlink := chainUnlink_agree spec spec' h
  obtain ⟨tb, rfl, same⟩ := h.exists_eq
  unfold rt6LpmDelLcore
  dsimp only [Rt6Lcore.setLpm6_heap, Rt6Lcore.setLpm6_rt6Hash]
  by_cases dflt : rt6Default cfg.dst
  · simp only [dflt, ↓reduceIte]
    exact .some (rt6DelLcoreDefault_agree (Rt6Lcore.agree_setLpm6 same))
  simp only [dflt, Bool.false_eq_true, ↓reduceIte]
  -- both sides search the same hash list of the same heap
  split
  next => exact Rt6Lcore.rel_some (Rt6Lcore.agree_setLpm6 same)
  next _ a _ =>
    split
    next => exact .none
    next _ node _ =>
      have rel := unlink a node
      generalize chainUnlink api t a node = r at rel ⊢
      generalize chainUnlink api' (t.setLpm6 tb) a node = r' at rel ⊢
      rcases rel with @⟨⟨flag, u⟩, ⟨flag', u'⟩, ⟨code, state⟩⟩ | _
      · obtain ⟨tb', rfl, same'⟩ := state.exists_eq
        dsimp only at code
        subst code
        cases flag
        · exact Rt6Lcore.rel_some ⟨rfl, same'⟩
        · exact Rt6Lcore.rel_some (Rt6Lcore.agree_setLpm6 same)
      · exact .none

/-- One entry of the flush loop, from two agreeing states or two faults. -/
theorem flushEntry_agree {o : Option (Rt6Lcore τ)} {o' : Option (Rt6Lcore σ)}
    (h : Option.Rel (Rt6Lcore.Agree api api') o o') (flushAll : Bool) (ifname : String)
    (i a : Nat) :
    Option.Rel (Rt6Lcore.Agree api api') (flushEntry api flushAll ifname i o a)
      (flushEntry api' flushAll ifname i o' a) := by
  rcases h with @⟨t, t', agree⟩ | _
  · have unlink := chainUnlink_agree spec spec' agree a
    obtain ⟨tb, rfl, same⟩ := agree.exists_eq
    simp only [flushEntry, Option.bind_eq_bind, Option.bind_some, Rt6Lcore.setLpm6_heap]
    cases heapGet t.heap a with
    | none => exact .none
    | some node =>
      simp only [Option.bind_some]
      split_ifs
      · exact .some ⟨rfl, same⟩
      · have rel := unlink node
        generalize chainUnlink api t a node = r at rel ⊢
        generalize chainUnlink api' (t.setLpm6 tb) a node = r' at rel ⊢
        rcases rel with @⟨⟨flag, u⟩, ⟨flag', u'⟩, ⟨-, state⟩⟩ | _
        · obtain ⟨tb', rfl, same'⟩ := state.exists_eq
          exact .some ⟨rfl, same'⟩
        · exact .none
      · exact .some agree
  · exact .none

theorem rt6LpmFlushLcore_agree (h : Rt6Lcore.Agree api api' t t') (cfg : Option Route6Conf) :
    Option.Rel (Rt6Lcore.ResultAgree api api') (rt6LpmFlushLcore env api t cfg)
      (rt6LpmFlushLcore env api' t' cfg) := by
  obtain ⟨tb, rfl, same⟩ := h.exists_eq
  unfold rt6LpmFlushLcore
  dsimp only
  apply rel_map_of (R := Rt6Lcore.Agree api api')
  · apply foldl_rel (R := Option.Rel (Rt6Lcore.Agree api api'))
    · -- a bucket: the loop over its entries, on the same list on both sides
      intro o o' i rel
      rcases rel with @⟨u, u', agree⟩ | _
      · obtain ⟨tb', rfl, -⟩ := agree.exists_eq
        dsimp only [Rt6Lcore.setLpm6_rt6Hash]
        exact foldl_rel (R := Option.Rel (Rt6Lcore.Agree api api'))
          (fun _ _ a r => flushEntry_agree spec spec' r _ _ _ a) _ _ _ (.some agree)
      · exact .none
    · apply Option.Rel.some
      split_ifs
      · exact ⟨rfl, Lpm6Api.same_deleteAll spec spec' _ _⟩
      · exact ⟨rfl, same⟩
  · intro u u' agree
    obtain ⟨tb', rfl, same'⟩ := agree.exists_eq
    split_ifs <;> exact ⟨rfl, rfl, same'⟩

/-- A lookup finds the same route on both sides, and leaves them agreeing. -/
theorem rt6LpmLookup_agree (h : Rt6Lcore.Agree api api' t t') (daddr : InetAddr)
    (oif : Option Dev) :
    Option.Rel (Rt6Lcore.ResultAgree api api') (rt6LpmLookup api t daddr oif)
      (rt6LpmLookup api' t' daddr oif) := by
  obtain ⟨tb, rfl, same⟩ := h.exists_eq
  unfold rt6LpmLookup
  dsimp only [Rt6Lcore.setLpm6_lpm6, Rt6Lcore.setLpm6_defaultRoute, Rt6Lcore.setLpm6_heap,
    Rt6Lcore.setLpm6_entries]
  rw [← same.lookup spec spec' daddr]
  split
  · split
    · exact Rt6Lcore.rel_some (Rt6Lcore.agree_setLpm6 same)
    · exact Rt6Lcore.rel_some ⟨rfl, same⟩
  · split
    · exact .none
    · exact Rt6Lcore.rel_some (Rt6Lcore.agree_setLpm6 same)
    · split
      · exact .none
      · exact Rt6Lcore.rel_some ⟨rfl, same⟩

theorem rt6Apply_agree (h : Rt6Lcore.Agree api api' t t') (c : Rt6Call) :
    Option.Rel (Rt6Lcore.ResultAgree api api') (rt6Apply env api t c) (rt6Apply env api' t' c) := by
  cases c with
  | add alloc lpmAddOk cfg => exact rt6LpmAddLcore_agree spec spec' h alloc lpmAddOk cfg
  | del cfg => exact rt6LpmDelLcore_agree spec spec' h cfg
  | flush cfg => exact rt6LpmFlushLcore_agree spec spec' h cfg

/-- Two agreeing lcores keep agreeing over any run of calls, and fault together. -/
theorem rt6Run_agree (h : Rt6Lcore.Agree api api' t t') (calls : List Rt6Call) :
    Option.Rel (Rt6Lcore.Agree api api') (rt6Run env api t calls) (rt6Run env api' t' calls) := by
  induction calls generalizing t t' with
  | nil => exact .some h
  | cons c cs ih =>
    have rel : Option.Rel _ (rt6Apply env api t c) (rt6Apply env api' t' c) :=
      rt6Apply_agree spec spec' h c
    simp only [rt6Run]
    generalize rt6Apply env api t c = r at rel ⊢
    generalize rt6Apply env api' t' c = r' at rel ⊢
    rcases rel with @⟨r, r', ⟨-, state⟩⟩ | _
    · exact ih state
    · exact .none

end Calls

end Agree

/-! ## A table that meets the documentation

A list of rules, the latest in front, asked by `ipv6_prefix_equal`: it meets
`Lpm6Api.Spec`, so the assumption is a consistent one, and it is the table on which
runs of the lcore functions can be computed. -/

/-- The masked difference of two words is transitive: what `ipv6_prefix_equal` tests of
the word that the prefix ends in. -/
theorem xor_and_eq_zero_trans {a b c m : UInt32} (h₁ : (a ^^^ b) &&& m = 0)
    (h₂ : (b ^^^ c) &&& m = 0) : (a ^^^ c) &&& m = 0 := by
  rw [← UInt32.toBitVec_inj] at h₁ h₂ ⊢
  simp only [UInt32.toBitVec_and, UInt32.toBitVec_xor, UInt32.toBitVec_zero] at h₁ h₂ ⊢
  ext i hi
  have e₁ := congrArg (fun x : BitVec 32 => x[i]) h₁
  have e₂ := congrArg (fun x : BitVec 32 => x[i]) h₂
  simp only [BitVec.getElem_and, BitVec.getElem_xor, BitVec.getElem_zero] at e₁ e₂ ⊢
  revert e₁ e₂
  cases a.toBitVec[i] <;> cases b.toBitVec[i] <;> cases c.toBitVec[i] <;> simp

theorem ipv6PrefixEqual_self (a : InetAddr) (n : Nat) : ipv6PrefixEqual a a n = true := by
  simp [ipv6PrefixEqual]

theorem ipv6PrefixEqual_comm (a b : InetAddr) (n : Nat) :
    ipv6PrefixEqual a b n = ipv6PrefixEqual b a n := by
  simp only [ipv6PrefixEqual, UInt32.xor_comm (a.words.getD _ 0), Bool.beq_comm (a := a.words.take _)]

theorem ipv6PrefixEqual_trans {a b c : InetAddr} {n : Nat} (h₁ : ipv6PrefixEqual a b n = true)
    (h₂ : ipv6PrefixEqual b c n = true) : ipv6PrefixEqual a c n = true := by
  simp only [ipv6PrefixEqual, Bool.and_eq_true, Bool.or_eq_true, beq_iff_eq] at h₁ h₂ ⊢
  obtain ⟨whole₁, part₁⟩ := h₁
  obtain ⟨whole₂, part₂⟩ := h₂
  refine ⟨?_, ?_⟩
  · rcases whole₁ with zero | eq₁
    · exact .inl zero
    · rcases whole₂ with zero | eq₂
      · exact .inl zero
      · exact .inr (eq₁.trans eq₂)
  · rcases part₁ with zero | eq₁
    · exact .inl zero
    · rcases part₂ with zero | eq₂
      · exact .inl zero
      · exact .inr (xor_and_eq_zero_trans eq₁ eq₂)

/-- A rule of the list table: the prefix as it was added, its depth and its next hop. -/
structure Lpm6Rule where
  ip : InetAddr
  depth : Nat
  nextHop : Nat
  deriving DecidableEq, Repr

/-- The latest rule of a depth that holds the address. -/
def ruleFind (rules : List Lpm6Rule) (ip : InetAddr) (d : Nat) : Option Lpm6Rule :=
  rules.find? fun r => r.depth == d && ipv6PrefixEqual r.ip ip d

/-- The next hop of the deepest rule, of depth at most `d`, that holds the address. -/
def ruleLookupFrom (rules : List Lpm6Rule) (a : InetAddr) : Nat → Option Nat
  | 0 => none
  | d + 1 =>
    match ruleFind rules a (d + 1) with
    | some r => some r.nextHop
    | none => ruleLookupFrom rules a d

/-- The list table. -/
def ruleListApi : Lpm6Api (List Lpm6Rule) where
  create := []
  isRulePresent rules ip d :=
    if Lpm6Depth d then some ((ruleFind rules ip d).map Lpm6Rule.nextHop) else none
  add rules ip d nh := ⟨ip, d, nh⟩ :: rules
  delete rules ip d :=
    if Lpm6Depth d then some (rules.filter fun r => !(r.depth == d && ipv6PrefixEqual r.ip ip d))
    else none
  deleteAll _ := []
  lookup rules a := ruleLookupFrom rules a 128

/-- The search from depth `n` down finds the deepest rule there is. -/
theorem ruleLookupFrom_eq_some (rules : List Lpm6Rule) (a : InetAddr) (nh : Nat) :
    ∀ n, ruleLookupFrom rules a n = some nh ↔
      ∃ d, 1 ≤ d ∧ d ≤ n ∧ (ruleFind rules a d).map Lpm6Rule.nextHop = some nh ∧
        ∀ d', d < d' → d' ≤ n → ruleFind rules a d' = none
  | 0 => by
    simp only [ruleLookupFrom, reduceCtorEq, false_iff, not_exists, not_and]
    intro d h₁ h₂
    omega
  | n + 1 => by
    cases hit : ruleFind rules a (n + 1) with
    | some r =>
      simp only [ruleLookupFrom, hit, Option.some.injEq]
      constructor
      · rintro rfl
        exact ⟨n + 1, by omega, le_rfl, by simp [hit], fun d' h₁ h₂ => absurd h₂ (by omega)⟩
      · rintro ⟨d, -, hd, found, above⟩
        -- a shallower match would leave the rule at `n + 1` above it
        obtain rfl : d = n + 1 := by
          by_contra ne
          have := above (n + 1) (by omega) le_rfl
          rw [hit] at this
          cases this
        simpa [hit] using found
    | none =>
      simp only [ruleLookupFrom, hit]
      rw [ruleLookupFrom_eq_some rules a nh n]
      constructor
      · rintro ⟨d, h₁, hd, found, above⟩
        refine ⟨d, h₁, by omega, found, fun d' lt le => ?_⟩
        rcases Nat.lt_or_ge d' (n + 1) with below | top
        · exact above d' lt (by omega)
        · obtain rfl : d' = n + 1 := by omega
          exact hit
      · rintro ⟨d, h₁, hd, found, above⟩
        have ne : d ≠ n + 1 := by
          rintro rfl
          rw [hit] at found
          cases found
        exact ⟨d, h₁, by omega, found, fun d' lt le => above d' lt (by omega)⟩

theorem ruleListApi_spec : ruleListApi.Spec where
  isRulePresent_invalid tb ip d hd := by simp [ruleListApi, hd]
  isRulePresent_create ip d hd := by simp [ruleListApi, hd, ruleFind]
  isRulePresent_add tb ip d nh ip' d' hd' := by
    simp only [ruleListApi, if_pos hd', ruleFind, List.find?_cons]
    by_cases hit : d' = d ∧ ipv6PrefixEqual ip ip' d = true
    · obtain ⟨rfl, pe⟩ := hit
      simp [pe]
    · rw [if_neg hit]
      have miss : (d == d' && ipv6PrefixEqual ip ip' d') = false := by
        by_cases dd : d' = d
        · subst dd
          simpa using hit
        · simp [Ne.symm dd]
      simp only [miss]
  delete_invalid tb ip d hd := by simp [ruleListApi, hd]
  delete_valid tb ip d hd := by
    refine ⟨_, if_pos hd, fun ip' d' hd' => ?_⟩
    simp only [ruleListApi, if_pos hd', ruleFind, List.find?_filter]
    by_cases hit : d' = d ∧ ipv6PrefixEqual ip ip' d = true
    · -- every rule the test accepts holds the deleted prefix, so none is left
      obtain ⟨rfl, pe⟩ := hit
      rw [if_pos ⟨rfl, pe⟩, Option.some.injEq, Option.map_eq_none_iff, List.find?_eq_none]
      intro r _ both
      simp only [decide_eq_true_eq, Bool.and_eq_true, beq_iff_eq] at both
      obtain ⟨keep, depth, held⟩ := both
      have dropped : ipv6PrefixEqual r.ip ip d' = true :=
        ipv6PrefixEqual_trans held (by rw [ipv6PrefixEqual_comm]; exact pe)
      simp [depth, dropped] at keep
    · -- the rules the delete drops are not the ones the test accepts
      rw [if_neg hit]
      congr 3
      funext r
      cases test : (r.depth == d' && ipv6PrefixEqual r.ip ip' d')
      · simp
      · simp only [Bool.and_eq_true, beq_iff_eq] at test
        obtain ⟨rfl, held⟩ := test
        have keep : (r.depth == d && ipv6PrefixEqual r.ip ip d) = false := by
          rw [Bool.eq_false_iff]
          intro dropped
          simp only [Bool.and_eq_true, beq_iff_eq] at dropped
          obtain ⟨depth, dropped⟩ := dropped
          rw [depth] at held
          exact hit ⟨depth, ipv6PrefixEqual_trans
            (by rw [ipv6PrefixEqual_comm]; exact dropped) held⟩
        simp [keep]
  isRulePresent_deleteAll tb ip d hd := by simp [ruleListApi, hd, ruleFind]
  lookup_eq_some tb a nh := by
    simp only [ruleListApi]
    rw [ruleLookupFrom_eq_some]
    constructor
    · rintro ⟨d, h₁, h₂, found, above⟩
      refine ⟨d, ⟨h₁, h₂⟩, by rw [if_pos ⟨h₁, h₂⟩, found], fun d' lt le => ?_⟩
      rw [if_pos ⟨by omega, le⟩, above d' lt le]
      rfl
    · rintro ⟨d, hd, found, above⟩
      rw [if_pos hd] at found
      refine ⟨d, hd.1, hd.2, Option.some.inj found, fun d' lt le => ?_⟩
      have none := above d' lt le
      rw [if_pos ⟨by omega, le⟩] at none
      simpa using none

/-! ## Deleting from a chain of three

The unlink `head->next = lpm6rt->next` is right only when the victim is the second
route of its chain. -/

/-- Port `dpdk0`. -/
def dpdk0 : Dev := ⟨0, "dpdk0", 1500⟩

/-- Port `dpdk1`. -/
def dpdk1 : Dev := ⟨1, "dpdk1", 1500⟩

/-- Port `dpdk2`. -/
def dpdk2 : Dev := ⟨2, "dpdk2", 1500⟩

/-- An lcore with the smallest tables the configuration allows, a stand-in hash,
and the three ports. -/
def sampleEnv : Rt6Env where
  maxRules := 16
  hashBucket := 16
  maxRules_ge := Nat.le_refl 16
  hashBucket_ge := Nat.le_refl 16
  jhash32b := fun ws init => ws.foldl (· + ·) init
  portByName := fun name => [dpdk0, dpdk1, dpdk2].find? (·.name == name)

/-- `fe80::/64`; the first word holds the bytes `fe 80 00 00`. -/
def linkLocal : RtAddr := ⟨⟨0x000080fe, 0, 0, 0⟩, 64⟩

/-- `fe80::1`. -/
def linkLocalHost : InetAddr := ⟨0x000080fe, 0, 0, 0x01000000⟩

/-- A route of `dst` on the named device. -/
def routeOn (dst : RtAddr) (ifname : String) : Route6Conf :=
  { dst, src := ⟨⟨0, 0, 0, 0⟩, 0⟩, prefsrc := ⟨⟨0, 0, 0, 0⟩, 0⟩, ifname,
    gateway := ⟨0, 0, 0, 0⟩, mtu := 0, flags := 0 }

/-- The route `fe80::/64` on the named device. -/
def linkLocalOn (ifname : String) : Route6Conf := routeOn linkLocal ifname

/-- `2001:db8:k::/48`. -/
def sitePrefix (k : Nat) : RtAddr := ⟨⟨0xb80d0120, k.toUInt32 <<< 8, 0, 0⟩, 48⟩

/-- Sixteen prefixes on `dpdk0`: they fill the sixteen slots, the last one going to
slot 0 when the search wraps round, where the cursor then stays. -/
def fillSlots : List Rt6Call :=
  (List.range 16).map fun k => .add (some (k + 1)) true (routeOn (sitePrefix k) "dpdk0")

/-- The three routes of `fe80::/64`, on `dpdk0`, `dpdk1` and `dpdk2`. -/
def chainOfThree : List Rt6Call :=
  [.add (some 1) true (linkLocalOn "dpdk0"), .add (some 2) true (linkLocalOn "dpdk1"),
    .add (some 3) true (linkLocalOn "dpdk2")]

/-- With `fe80::/64` on `dpdk0`, `dpdk1`, `dpdk2` (chain `dpdk2, dpdk1, dpdk0`), a
lookup for `dpdk1` finds its route; deleting the route of `dpdk0`, the last of the
chain, sets the head's `next` to `NULL` and drops `dpdk1`'s route from the chain,
which stays configured in the hash list and in `num`, and the lookup finds nothing.
And with all sixteen slots filled and the route in the cursor's slot deleted, the
next new prefix is refused with `EDPVS_INVAL` while `num` is 15 < 16. So it goes
over every `rte_lpm6` that behaves as documented. -/
theorem rt6_del_drops_chain_neighbour {τ : Type} (api : Lpm6Api τ) (spec : api.Spec) :
    let added := rt6Run sampleEnv api (.empty api) chainOfThree
    let deleted :=
      rt6Run sampleEnv api (.empty api) (chainOfThree ++ [.del (linkLocalOn "dpdk0")])
    (added.bind fun t => (rt6LpmLookup api t linkLocalHost (some dpdk1)).map
        fun r => r.1.bind Route6.dev) = some (some dpdk1) ∧
      (deleted.map fun t => (t.num, t.rt6Hash (rt6HashKey sampleEnv linkLocal))) =
        some (2, [2, 3]) ∧
      (deleted.bind fun t => (rt6LpmLookup api t linkLocalHost (some dpdk1)).map Prod.fst) =
        some none ∧
      ((rt6Run sampleEnv api (.empty api) (fillSlots ++ [.del (routeOn (sitePrefix 15) "dpdk0")])).bind
        fun t => (rt6LpmAddLcore sampleEnv api (some 17) true t (routeOn (sitePrefix 16) "dpdk0")).map
          fun r => (t.num, r.1)) = some (15, .inval) := by
  intro added deleted
  -- every run from the empty state agrees with the same run over the list table
  have start : Rt6Lcore.Agree ruleListApi api (.empty ruleListApi) (.empty api) :=
    Rt6Lcore.agree_setLpm6 (Lpm6Api.same_create ruleListApi_spec spec)
  have run : ∀ calls, Option.Rel (Rt6Lcore.Agree ruleListApi api)
      (rt6Run sampleEnv ruleListApi (.empty ruleListApi) calls)
      (rt6Run sampleEnv api (.empty api) calls) :=
    rt6Run_agree ruleListApi_spec spec start
  -- a lookup reads the same route from agreeing states
  have lookups : ∀ calls {β : Type} (f : Option Route6 → β),
      ((rt6Run sampleEnv api (.empty api) calls).bind fun t =>
        (rt6LpmLookup api t linkLocalHost (some dpdk1)).map fun r => f r.1) =
      ((rt6Run sampleEnv ruleListApi (.empty ruleListApi) calls).bind fun t =>
        (rt6LpmLookup ruleListApi t linkLocalHost (some dpdk1)).map fun r => f r.1) :=
    fun calls _ f => (rel_bind_eq (run calls) fun _ _ agree =>
      rel_map_eq (rt6LpmLookup_agree ruleListApi_spec spec agree _ _) fun _ _ same => by
        rw [same.code]).symm
  -- so each part is its value over the list table, computed there
  refine ⟨(lookups _ fun r => r.bind Route6.dev).trans (by decide), ?_,
    (lookups _ id).trans (by decide), ?_⟩
  · refine (rel_map_eq (run _) (f := fun t => (t.num, t.rt6Hash (rt6HashKey sampleEnv linkLocal)))
      fun _ _ agree => ?_).symm.trans (by decide)
    obtain ⟨tb, rfl, -⟩ := agree.exists_eq
    rfl
  · refine (rel_bind_eq (run _) (f := fun t =>
        (rt6LpmAddLcore sampleEnv ruleListApi (some 17) true t (routeOn (sitePrefix 16) "dpdk0")).map
          fun r => (t.num, r.1))
      fun _ _ agree => rel_map_eq (rt6LpmAddLcore_agree ruleListApi_spec spec agree _ _ _)
        fun _ _ same => ?_).symm.trans (by decide)
    obtain ⟨tb, rfl, -⟩ := agree.exists_eq
    rw [same.code]
    rfl

theorem rt6_del_drops_chain_neighbour_rule_list :
    ruleListApi.Spec ∧
      let added := rt6Run sampleEnv ruleListApi (.empty ruleListApi) chainOfThree
      let deleted := rt6Run sampleEnv ruleListApi (.empty ruleListApi)
        (chainOfThree ++ [.del (linkLocalOn "dpdk0")])
      (added.bind fun t => (rt6LpmLookup ruleListApi t linkLocalHost (some dpdk1)).map
          fun r => r.1.bind Route6.dev) = some (some dpdk1) ∧
        (deleted.map fun t => (t.num, t.rt6Hash (rt6HashKey sampleEnv linkLocal))) =
          some (2, [2, 3]) ∧
        (deleted.bind fun t =>
          (rt6LpmLookup ruleListApi t linkLocalHost (some dpdk1)).map Prod.fst) = some none ∧
        ((rt6Run sampleEnv ruleListApi (.empty ruleListApi)
            (fillSlots ++ [.del (routeOn (sitePrefix 15) "dpdk0")])).bind fun t =>
          (rt6LpmAddLcore sampleEnv ruleListApi (some 17) true t
            (routeOn (sitePrefix 16) "dpdk0")).map fun r => (t.num, r.1)) = some (15, .inval) :=
  ⟨ruleListApi_spec, rt6_del_drops_chain_neighbour ruleListApi ruleListApi_spec⟩

end Dpvs.Route6Lpm
