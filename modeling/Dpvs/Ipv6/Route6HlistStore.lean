import Dpvs.Ipv6.Route6Hlist

/-!
# The hash-list route store and what it is for

`Route6Hlist` models the calls of `route6_hlist.c` on the node list. This module
states the shape the calls keep (`HtableOk`) and reads each call as an operation on
the routes of the table, node after node and bucket after bucket
(`Rt6Htable.routes`): get is the first route that matches the request, del unlinks
it, flush keeps the routes that do not go, and a lookup takes a reference on the
first route that matches the flow, which is one of longest prefix.

The bucket searches are where the two levels meet. A request matches only routes of
its own address and length, which sit in the bucket of its prefix; a flow matches a
route only when its destination has the route's prefix, and then it hashes to the
route's bucket because `ipv6_addr_prefix` agrees with `ipv6_prefix_equal`
(`ipv6AddrPrefix_eq_of_prefixEqual`). So every bucket searched holds every hit of
its node (`HashBuckets.Placed.find?_getD`).
-/

namespace Dpvs.Route6Hlist

open Route6Lpm

/-! ## The routes of a table -/

/-- The routes of a node, bucket after bucket. -/
def Rt6Hlist.routes (hlist : Rt6Hlist) : List Route6 := hlist.hlist.flatten

/-- The routes of a table, node after node: the order `rt6_hlist_dump` lists them in. -/
def Rt6Htable.routes (t : Rt6Htable) : List Route6 := t.htable.flatMap Rt6Hlist.routes

theorem routes_cut (A B : List Rt6Hlist) (hlist : Rt6Hlist) :
    (A ++ hlist :: B).flatMap Rt6Hlist.routes =
      A.flatMap Rt6Hlist.routes ++ hlist.routes ++ B.flatMap Rt6Hlist.routes := by
  simp

@[simp] theorem rt6FillWithCfg_dst (env : Rt6Env) (cf : Route6Conf) :
    (rt6FillWithCfg env cf).dst = cf.dst := rfl

@[simp] theorem rt6Hold_dst (rt6 : Route6) : (rt6Hold rt6).dst = rt6.dst := rfl

theorem rt6HlistBuckets_pos (plen : Int) : 0 < rt6HlistBuckets plen := by
  unfold rt6HlistBuckets
  split
  · rw [Nat.one_shiftLeft]
    exact Nat.two_pow_pos _
  · decide

/-! ## The shape of the store -/

section Invariant

variable (env : Rt6Env)

/-- The hash that places a route among the buckets of a node. -/
def Rt6Hlist.hash (hlist : Rt6Hlist) (rt6 : Route6) : Nat :=
  rt6HlistHashkey env rt6.dst.addr hlist.plen hlist.nbuckets

/-- A node as the table keeps it, routes or not: a length within `0..128`, the bucket
count `rt6_hlist_buckets` gives it, every route of the node's length and in the bucket
of its prefix, and `nroutes` counting them. -/
structure HlistShape (hlist : Rt6Hlist) : Prop where
  plen_nonneg : 0 ≤ hlist.plen
  plen_le : hlist.plen ≤ 128
  nbuckets : hlist.nbuckets = rt6HlistBuckets hlist.plen
  length : hlist.hlist.length = hlist.nbuckets
  placed : HashBuckets.Placed (hlist.hash env) hlist.hlist
  plens : ∀ rt6 ∈ hlist.routes, rt6.dst.plen = hlist.plen
  count : hlist.nroutes = hlist.routes.length

/-- A node of the table: shaped, and holding a route. -/
structure HlistOk (hlist : Rt6Hlist) : Prop extends HlistShape env hlist where
  nonempty : 0 < hlist.nroutes

/-- The table: its nodes are, their lengths strictly decrease, and `nroutes` counts
every route. -/
structure HtableOk (t : Rt6Htable) : Prop where
  nodes : ∀ hlist ∈ t.htable, HlistOk env hlist
  sorted : t.htable.Pairwise fun a b => b.plen < a.plen
  count : t.nroutes = t.routes.length

theorem htableOk_setup : HtableOk env rt6HlistSetupLcore :=
  ⟨by simp [rt6HlistSetupLcore], .nil, rfl⟩

end Invariant

variable {env : Rt6Env} {cf : Route6Conf}

/-- A route that matches a request hashes where the request does. -/
theorem hash_of_rt6Match {hlist : Rt6Hlist} {rt6 : Route6} (hit : rt6Match env rt6 cf = true) :
    hlist.hash env rt6 = rt6HlistHashkey env cf.dst.addr hlist.plen hlist.nbuckets := by
  simp only [rt6Match, Bool.and_eq_true, beq_iff_eq] at hit
  simp only [Rt6Hlist.hash, hit.1.1]

namespace HlistShape

variable {hlist : Rt6Hlist} (s : HlistShape env hlist)
include s

theorem hashkey_lt (addr : InetAddr) :
    rt6HlistHashkey env addr hlist.plen hlist.nbuckets < hlist.hlist.length := by
  rw [s.length]
  exact Nat.mod_lt _ (s.nbuckets ▸ rt6HlistBuckets_pos hlist.plen)

theorem mem_bucket {rt6 : Route6} {k : Nat} (h : rt6 ∈ hlist.hlist.getD k []) :
    rt6.dst.plen = hlist.plen ∧ hlist.hash env rt6 = k :=
  ⟨s.plens rt6 (HashBuckets.mem_flatten_of_mem_getD h), s.placed k rt6 h⟩

/-- A node whose bucket `k` is edited to hold routes of the node's length that hash
to `k` keeps its shape, counting its new routes. -/
theorem modify {g : List Route6 → List Route6} {k : Nat}
    (hg : ∀ rt6 ∈ g (hlist.hlist.getD k []), rt6.dst.plen = hlist.plen ∧ hlist.hash env rt6 = k)
    {n : Int} (count : n = (hlist.hlist.modify k g).flatten.length) :
    HlistShape env { hlist with hlist := hlist.hlist.modify k g, nroutes := n } where
  plen_nonneg := s.plen_nonneg
  plen_le := s.plen_le
  nbuckets := s.nbuckets
  length := by simp [s.length]
  placed := s.placed.modify fun rt6 h => (hg rt6 h).2
  plens := by
    intro rt6 h
    have at_hash := (s.placed.modify fun rt6 h => (hg rt6 h).2).mem_getD h
    rw [HashBuckets.getD_modify] at at_hash
    split at at_hash
    · -- in the edited bucket
      split at at_hash
      · exact (hg rt6 (by simpa [*] using at_hash)).1
      · simp at at_hash
    · exact s.plens rt6 (HashBuckets.mem_flatten_of_mem_getD at_hash)
  count := count

/-- A request matches only routes of its own address, which sit in the bucket of its
prefix, so that bucket's first match is the node's. -/
theorem find?_bucket_rt6Match :
    (hlist.hlist.getD (rt6HlistHashkey env cf.dst.addr hlist.plen hlist.nbuckets) []).find?
        (rt6Match env · cf) = hlist.routes.find? (rt6Match env · cf) :=
  s.placed.find?_getD fun _ _ hit => hash_of_rt6Match hit

/-- A node of another length has no route that matches the request. -/
theorem find?_rt6Match_of_ne (hne : hlist.plen ≠ cf.dst.plen) :
    hlist.routes.find? (rt6Match env · cf) = none := by
  refine List.find?_eq_none.mpr fun rt6 h hit => hne ?_
  simp only [rt6Match, Bool.and_eq_true, beq_iff_eq] at hit
  rw [← s.plens rt6 h, hit.1.2]

end HlistShape

/-! ## Get -/

/-- What `__rt6_hlist_get` returns: the node at its position, of the request's
length, and the first match in the bucket of the request's prefix. -/
theorem rt6HlistGetFrom_eq_some {i j : Nat} {nodes : List Rt6Hlist} {hlist : Rt6Hlist}
    {rt6 : Route6} (h : rt6HlistGetFrom env cf i nodes = some (j, hlist, rt6)) :
    ∃ A B, nodes = A ++ hlist :: B ∧ j = i + A.length ∧ hlist.plen = cf.dst.plen ∧
      (hlist.hlist.getD (rt6HlistHashkey env cf.dst.addr hlist.plen hlist.nbuckets) []).find?
        (rt6Match env · cf) = some rt6 := by
  induction nodes generalizing i with
  | nil => simp [rt6HlistGetFrom] at h
  | cons node rest ih =>
    unfold rt6HlistGetFrom at h
    split at h
    · obtain ⟨A, B, rfl, rfl, hplen, found⟩ := ih h
      exact ⟨node :: A, B, rfl, by simp; omega, hplen, found⟩
    · split at h
      · simp at h
      · dsimp only at h
        split at h
        · next found =>
          simp only [Option.some.injEq, Prod.mk.injEq] at h
          obtain ⟨rfl, rfl, rfl⟩ := h
          exact ⟨[], rest, rfl, rfl, by omega, found⟩
        · obtain ⟨A, B, rfl, rfl, hplen, found⟩ := ih h
          exact ⟨node :: A, B, rfl, by simp; omega, hplen, found⟩

/-- Nodes of other lengths than the request's hold no match. -/
theorem find?_rt6Match_eq_none {nodes : List Rt6Hlist} (shaped : ∀ N ∈ nodes, HlistShape env N)
    (hne : ∀ N ∈ nodes, N.plen ≠ cf.dst.plen) :
    (nodes.flatMap Rt6Hlist.routes).find? (rt6Match env · cf) = none := by
  refine List.find?_eq_none.mpr fun rt6 h hit => ?_
  obtain ⟨N, hN, hmem⟩ := List.mem_flatMap.mp h
  have none := (shaped N hN).find?_rt6Match_of_ne (hne N hN)
  exact absurd hit (by simpa using List.find?_eq_none.mp none rt6 hmem)

/-- The walk of `__rt6_hlist_get` over sorted shaped nodes finds the first route that
matches the request. -/
theorem rt6HlistGetFrom_refines {nodes : List Rt6Hlist} (i : Nat)
    (shaped : ∀ N ∈ nodes, HlistShape env N) (sorted : nodes.Pairwise fun a b => b.plen < a.plen) :
    (rt6HlistGetFrom env cf i nodes).map (fun found => found.2.2) =
      (nodes.flatMap Rt6Hlist.routes).find? (rt6Match env · cf) := by
  induction nodes generalizing i with
  | nil => rfl
  | cons node rest ih =>
    have s := shaped node (by simp)
    have shapedRest : ∀ N ∈ rest, HlistShape env N := fun N hN => shaped N (by simp [hN])
    have below := (List.pairwise_cons.mp sorted).1
    rw [List.flatMap_cons, List.find?_append]
    unfold rt6HlistGetFrom
    by_cases longer : node.plen > cf.dst.plen
    · -- a longer prefix: passed over
      rw [if_pos longer, s.find?_rt6Match_of_ne (ne_of_gt longer), Option.none_or]
      exact ih (i + 1) shapedRest sorted.of_cons
    · rw [if_neg longer]
      by_cases shorter : node.plen < cf.dst.plen
      · -- a shorter prefix ends the walk: the nodes after it are shorter still
        rw [if_pos shorter, s.find?_rt6Match_of_ne (ne_of_lt shorter), Option.none_or,
          find?_rt6Match_eq_none shapedRest fun N hN => ne_of_lt ((below N hN).trans shorter)]
        rfl
      · -- the node of the request's length: its bucket holds its matches
        rw [if_neg shorter]
        simp only
        rw [s.find?_bucket_rt6Match]
        cases node.routes.find? (rt6Match env · cf) with
        | some rt6 => rfl
        | none => exact ih (i + 1) shapedRest sorted.of_cons

section Table

variable {t : Rt6Htable} (ok : HtableOk env t)
include ok

theorem HtableOk.shaped : ∀ N ∈ t.htable, HlistShape env N :=
  fun N hN => (ok.nodes N hN).toHlistShape

/-- `rt6_hlist_get` is the first route of the table that matches the request. -/
theorem rt6HlistGet_eq : rt6HlistGet env t cf = t.routes.find? (rt6Match env · cf) :=
  rt6HlistGetFrom_refines 0 ok.shaped ok.sorted

end Table

/-! ## New routes and new nodes -/

theorem hlistShape_new {plen : Int} (h0 : 0 ≤ plen) (h128 : plen ≤ 128) :
    HlistShape env (rt6HlistNew plen) where
  plen_nonneg := h0
  plen_le := h128
  nbuckets := rfl
  length := List.length_replicate ..
  placed := HashBuckets.placed_replicate _
  plens := by simp [Rt6Hlist.routes, rt6HlistNew]
  count := by simp [Rt6Hlist.routes, rt6HlistNew]

@[simp] theorem routes_rt6HlistNew (plen : Int) : (rt6HlistNew plen).routes = [] := by
  simp [Rt6Hlist.routes, rt6HlistNew]

/-- Linking the request's route into a shaped node of its length gives a node of the
table, with the new route among the node's routes. -/
theorem HlistShape.link {hlist : Rt6Hlist} (s : HlistShape env hlist)
    (hplen : hlist.plen = cf.dst.plen) :
    HlistOk env (rt6HlistLink env cf hlist) ∧ ∃ pre post, hlist.routes = pre ++ post ∧
      (rt6HlistLink env cf hlist).routes = pre ++ rt6FillWithCfg env cf :: post := by
  have lt := s.hashkey_lt cf.dst.addr
  rw [hplen] at lt
  have linked := HashBuckets.flatten_modify (· ++ [rt6FillWithCfg env cf]) lt
  have around := HashBuckets.flatten_eq_around lt
  have count := s.count
  rw [Rt6Hlist.routes, around] at count
  refine ⟨⟨s.modify (fun rt6 h => ?_) ?_, ?_⟩, _, _, by rw [Rt6Hlist.routes, around], ?_⟩
  · -- the bucket keeps its routes and gets the request's, of the node's length and prefix
    rcases List.mem_append.mp h with h | h
    · exact s.mem_bucket h
    · rw [List.mem_singleton.mp h]
      exact ⟨by simp [hplen], by simp [Rt6Hlist.hash, hplen]⟩
  · rw [linked]
    simp only [List.length_append, List.length_singleton] at count ⊢
    omega
  · show 0 < hlist.nroutes + 1
    omega
  · show (hlist.hlist.modify _ _).flatten = _
    rw [linked]
    simp

/-! ## Editing the node list -/

/-- The order of the nodes reads their lengths only. -/
theorem sorted_of_map_plen {l l' : List Rt6Hlist}
    (plens : l'.map Rt6Hlist.plen = l.map Rt6Hlist.plen)
    (sorted : l.Pairwise fun a b => b.plen < a.plen) : l'.Pairwise fun a b => b.plen < a.plen := by
  have lengths : (l.map Rt6Hlist.plen).Pairwise (fun a b => b < a) := List.pairwise_map.mpr sorted
  rw [← plens] at lengths
  exact List.pairwise_map.mp lengths

section Edits

variable {t : Rt6Htable} (ok : HtableOk env t) {A B : List Rt6Hlist}
include ok

/-- The count of a table cut at one of its nodes. -/
theorem HtableOk.count_cut {N : Rt6Hlist} (cut : t.htable = A ++ N :: B) :
    t.nroutes = (A.flatMap Rt6Hlist.routes).length + N.routes.length +
      (B.flatMap Rt6Hlist.routes).length := by
  rw [ok.count, Rt6Htable.routes, cut, routes_cut]
  simp only [List.length_append, Nat.cast_add]

/-- A node replaced by a node of the table of the same length, the count moved by the
difference of their routes. -/
theorem HtableOk.replace {N N' : Rt6Hlist} (cut : t.htable = A ++ N :: B)
    (hN' : HlistOk env N') (plen : N'.plen = N.plen) {n : Int}
    (count : n + N.routes.length = t.nroutes + N'.routes.length)
    (dustbin : List Route6) : HtableOk env ⟨n, A ++ N' :: B, dustbin⟩ where
  nodes := by
    intro M hM
    rcases List.mem_append.mp hM with hM | hM
    · exact ok.nodes M (by simp [cut, hM])
    · rcases List.mem_cons.mp hM with rfl | hM
      · exact hN'
      · exact ok.nodes M (by simp [cut, hM])
  sorted := sorted_of_map_plen (by simp [cut, plen]) ok.sorted
  count := by
    have total := ok.count_cut cut
    simp only [Rt6Htable.routes, routes_cut, List.length_append]
    omega

/-- A node unlinked from the list, the count down by its routes. -/
theorem HtableOk.remove {N : Rt6Hlist} (cut : t.htable = A ++ N :: B) {n : Int}
    (count : n + N.routes.length = t.nroutes)
    (dustbin : List Route6) : HtableOk env ⟨n, A ++ B, dustbin⟩ where
  nodes := by
    intro M hM
    rcases List.mem_append.mp hM with hM | hM <;> exact ok.nodes M (by simp [cut, hM])
  sorted := (cut ▸ ok.sorted).sublist ((List.sublist_cons_self N B).append_left A)
  count := by
    have total := ok.count_cut cut
    simp only [Rt6Htable.routes, List.flatMap_append, List.length_append]
    omega

/-- A node linked in between longer and shorter prefixes, the count up by its routes. -/
theorem HtableOk.insert {N : Rt6Hlist} (cut : t.htable = A ++ B) (hN : HlistOk env N)
    (above : ∀ a ∈ A, N.plen < a.plen) (below : ∀ b ∈ B, b.plen < N.plen) {n : Int}
    (count : n = t.nroutes + N.routes.length)
    (dustbin : List Route6) : HtableOk env ⟨n, A ++ N :: B, dustbin⟩ where
  nodes := by
    intro M hM
    rcases List.mem_append.mp hM with hM | hM
    · exact ok.nodes M (by simp [cut, hM])
    · rcases List.mem_cons.mp hM with rfl | hM
      · exact hN
      · exact ok.nodes M (by simp [cut, hM])
  sorted := by
    have sorted := cut ▸ ok.sorted
    rw [List.pairwise_append] at sorted ⊢
    refine ⟨sorted.1, List.pairwise_cons.mpr ⟨below, sorted.2.1⟩, ?_⟩
    intro a ha b hb
    rcases List.mem_cons.mp hb with rfl | hb
    · exact above a ha
    · exact sorted.2.2 a ha b hb
  count := by
    have total := ok.count
    rw [Rt6Htable.routes, cut, List.flatMap_append] at total
    simp only [Rt6Htable.routes, routes_cut, List.length_append] at total ⊢
    omega

/-- A node of the table has the longer prefixes ahead of it and the shorter ones
after it. -/
theorem HtableOk.cut_lengths {N : Rt6Hlist} (cut : t.htable = A ++ N :: B) :
    (∀ a ∈ A, N.plen < a.plen) ∧ ∀ b ∈ B, b.plen < N.plen := by
  have sorted := cut ▸ ok.sorted
  rw [List.pairwise_append, List.pairwise_cons] at sorted
  exact ⟨fun a ha => sorted.2.2 a ha N (by simp), sorted.2.1.1⟩

end Edits

/-! ## Add -/

/-- What an add may leave of a table: the table itself, or, with `EDPVS_OK`, the table
with the request's route among its routes. -/
def AddOutcome (env : Rt6Env) (cf : Route6Conf) (t : Rt6Htable) (r : Edpvs × Rt6Htable) : Prop :=
  r.2 = t ∨ r.1 = .ok ∧
    ∃ pre post, t.routes = pre ++ post ∧ r.2.routes = pre ++ rt6FillWithCfg env cf :: post

/-- The scan of `rt6_hlist_add_lcore` cuts the nodes after the longer prefixes, at a
node whose prefix is not longer. -/
theorem span_longer (nodes : List Rt6Hlist) {before after : List Rt6Hlist}
    (h : nodes.span (fun hlist => decide (hlist.plen > cf.dst.plen)) = (before, after)) :
    nodes = before ++ after ∧ (∀ a ∈ before, cf.dst.plen < a.plen) ∧
      ∀ N rest, after = N :: rest → N.plen ≤ cf.dst.plen := by
  rw [List.span_eq_takeWhile_dropWhile, Prod.mk.injEq] at h
  obtain ⟨rfl, rfl⟩ := h
  refine ⟨List.takeWhile_append_dropWhile.symm, fun a ha => ?_, fun N rest h => ?_⟩
  · simpa using List.mem_takeWhile_imp ha
  · have stop := List.head?_dropWhile_not (fun hlist => decide (hlist.plen > cf.dst.plen)) nodes
    rw [h] at stop
    simpa using stop

/-- `rt6_hlist_add_lcore` returns `EDPVS_EXIST` exactly when `rt6_hlist_get` finds a
route for the request. -/
theorem rt6HlistAddLcore_exist_iff (t : Rt6Htable) (nodeAlloc routeAlloc : Bool) :
    (rt6HlistAddLcore env nodeAlloc routeAlloc t cf).1 = .exist ↔ (rt6HlistGet env t cf).isSome := by
  unfold rt6HlistAddLcore
  split
  · next found => simp [found]
  · next missing =>
    simp only [missing]
    generalize t.htable.span (fun hlist => decide (hlist.plen > cf.dst.plen)) = split
    unfold rt6HlistAddRoute
    repeat' split
    all_goals simp

section Add

variable {t : Rt6Htable} (ok : HtableOk env t)
include ok

/-- The route goes into the node of its length. -/
theorem rt6HlistAddRoute_existing {before rest : List Rt6Hlist} {N : Rt6Hlist}
    (cut : t.htable = before ++ N :: rest) (hplen : N.plen = cf.dst.plen) (routeAlloc : Bool) :
    HtableOk env (rt6HlistAddRoute env routeAlloc t cf before (some (N, rest))).2 ∧
      AddOutcome env cf t (rt6HlistAddRoute env routeAlloc t cf before (some (N, rest))) := by
  have hN := ok.nodes N (by simp [cut])
  dsimp only [rt6HlistAddRoute]
  by_cases alloc : routeAlloc = true
  · rw [if_pos alloc]
    obtain ⟨linked, pre, post, old, new⟩ := hN.link hplen
    refine ⟨ok.replace cut linked rfl ?_ t.dustbin,
      .inr ⟨rfl, before.flatMap Rt6Hlist.routes ++ pre, post ++ rest.flatMap Rt6Hlist.routes,
        ?_, ?_⟩⟩
    · -- one route more in the node
      rw [old, new]
      simp only [List.length_append, List.length_cons]
      omega
    · rw [Rt6Htable.routes, cut, routes_cut, old]
      simp
    · show (before ++ _ :: rest).flatMap Rt6Hlist.routes = _
      rw [routes_cut, new]
      simp
  · -- no route: the node had one already and stays, so the table is as it was
    rw [if_neg alloc, if_neg hN.nonempty.ne']
    have same : ({ t with htable := before ++ N :: rest } : Rt6Htable) = t := by rw [← cut]
    rw [same]
    exact ⟨ok, .inl rfl⟩

/-- The route goes into a new node between the longer and the shorter prefixes. -/
theorem rt6HlistAddRoute_new {before after : List Rt6Hlist} (cut : t.htable = before ++ after)
    (above : ∀ a ∈ before, cf.dst.plen < a.plen) (below : ∀ b ∈ after, b.plen < cf.dst.plen)
    (h0 : 0 ≤ cf.dst.plen) (h128 : cf.dst.plen ≤ 128) (routeAlloc : Bool) :
    let r := rt6HlistAddRoute env routeAlloc t cf before (some (rt6HlistNew cf.dst.plen, after))
    HtableOk env r.2 ∧ AddOutcome env cf t r := by
  dsimp only [rt6HlistAddRoute]
  by_cases alloc : routeAlloc = true
  · rw [if_pos alloc]
    have fresh : HlistShape env (rt6HlistNew cf.dst.plen) := hlistShape_new h0 h128
    obtain ⟨linked, pre, post, old, new⟩ := fresh.link rfl
    -- the new node held nothing, so the new route is all it holds
    rw [routes_rt6HlistNew, List.nil_eq_append_iff] at old
    obtain ⟨rfl, rfl⟩ := old
    refine ⟨ok.insert cut linked above below ?_ t.dustbin,
      .inr ⟨rfl, before.flatMap Rt6Hlist.routes, after.flatMap Rt6Hlist.routes, ?_, ?_⟩⟩
    · rw [new]
      rfl
    · rw [Rt6Htable.routes, cut, List.flatMap_append]
    · show (before ++ _ :: after).flatMap Rt6Hlist.routes = _
      rw [routes_cut, new]
      simp
  · -- no route: the new node is unlinked again
    rw [if_neg alloc, if_pos (show (rt6HlistNew cf.dst.plen).nroutes = 0 from rfl)]
    have same : ({ t with htable := before ++ after } : Rt6Htable) = t := by rw [← cut]
    rw [same]
    exact ⟨ok, .inl rfl⟩

/-- `rt6_hlist_add_lcore` keeps the shape of the table, and either leaves it as it was
or puts the request's route among its routes. -/
theorem rt6HlistAddLcore_spec (h0 : 0 ≤ cf.dst.plen) (h128 : cf.dst.plen ≤ 128)
    (nodeAlloc routeAlloc : Bool) :
    HtableOk env (rt6HlistAddLcore env nodeAlloc routeAlloc t cf).2 ∧
      AddOutcome env cf t (rt6HlistAddLcore env nodeAlloc routeAlloc t cf) := by
  unfold rt6HlistAddLcore
  split
  · exact ⟨ok, .inl rfl⟩
  · dsimp only
    generalize scan : t.htable.span (fun hlist => decide (hlist.plen > cf.dst.plen)) = split
    obtain ⟨before, after⟩ := split
    obtain ⟨cut, above, first⟩ := span_longer t.htable scan
    cases after with
    | nil =>
      dsimp only
      split
      · exact rt6HlistAddRoute_new ok (by simpa using cut) above (by simp) h0 h128 routeAlloc
      · exact ⟨ok, .inl rfl⟩
    | cons N rest =>
      dsimp only
      split
      · next same => exact rt6HlistAddRoute_existing ok cut same routeAlloc
      · next other =>
        -- the scan stopped at a shorter prefix, and the nodes after it are shorter still
        have shorter : N.plen < cf.dst.plen := lt_of_le_of_ne (first N rest rfl) other
        have below : ∀ b ∈ N :: rest, b.plen < cf.dst.plen := by
          intro b hb
          rcases List.mem_cons.mp hb with rfl | hb
          · exact shorter
          · exact ((ok.cut_lengths cut).2 b hb).trans shorter
        split
        · exact rt6HlistAddRoute_new ok cut above below h0 h128 routeAlloc
        · exact ⟨ok, .inl rfl⟩

end Add

/-! ## Del -/

section Del

variable {t : Rt6Htable} (ok : HtableOk env t)
include ok

/-- `rt6_hlist_del_lcore` keeps the shape of the table and unlinks the first route that
matches the request, the one `rt6_hlist_get` returns; without one it returns
`EDPVS_NOTEXIST`. -/
theorem rt6HlistDelLcore_spec :
    HtableOk env (rt6HlistDelLcore env t cf).2 ∧
      (rt6HlistDelLcore env t cf).2.routes = t.routes.eraseP (rt6Match env · cf) ∧
      (rt6HlistDelLcore env t cf).1 =
        if (t.routes.find? (rt6Match env · cf)).isSome then .ok else .notexist := by
  have refines : rt6HlistGet env t cf = t.routes.find? (rt6Match env · cf) := rt6HlistGet_eq ok
  unfold rt6HlistDelLcore
  cases get : rt6HlistGetFrom env cf 0 t.htable with
  | none =>
    have none : t.routes.find? (rt6Match env · cf) = none := by
      rw [← refines, rt6HlistGet, get, Option.map_none]
    rw [FirstMatch.eraseP_of_find?_none none, none]
    exact ⟨ok, rfl, rfl⟩
  | some found =>
    obtain ⟨j, N, rt6⟩ := found
    obtain ⟨A, B, cut, rfl, hplen, hit⟩ := rt6HlistGetFrom_eq_some get
    have first : t.routes.find? (rt6Match env · cf) = some rt6 := by
      rw [← refines, rt6HlistGet, get, Option.map_some]
    have hN := ok.nodes N (by simp [cut])
    have nodeHit : N.routes.find? (rt6Match env · cf) = some rt6 := by
      rw [← hN.find?_bucket_rt6Match]
      exact hit
    have memN := List.mem_of_find?_eq_some nodeHit
    have hitN := List.find?_some nodeHit
    -- the unlink in the bucket is the unlink in the node, and nothing ahead matches
    have erased : (N.hlist.modify (rt6HlistHashkey env cf.dst.addr N.plen N.nbuckets)
        (·.eraseP (rt6Match env · cf))).flatten = N.routes.eraseP (rt6Match env · cf) :=
      hN.placed.flatten_modify_eraseP fun _ _ h => hash_of_rt6Match h
    have ahead : ∀ b ∈ A.flatMap Rt6Hlist.routes, ¬ rt6Match env b cf = true :=
      List.find?_eq_none.mp <| find?_rt6Match_eq_none
        (fun M hM => ok.shaped M (by simp [cut, hM]))
        (fun M hM => ne_of_gt (hplen ▸ (ok.cut_lengths cut).1 M hM))
    have unlinked : t.routes.eraseP (rt6Match env · cf) = A.flatMap Rt6Hlist.routes ++
        N.routes.eraseP (rt6Match env · cf) ++ B.flatMap Rt6Hlist.routes := by
      rw [Rt6Htable.routes, cut, routes_cut, List.append_assoc, List.eraseP_append_right _ ahead,
        List.eraseP_append_left (p := (rt6Match env · cf)) hitN _ memN, List.append_assoc]
    have len := List.length_eraseP_of_mem (p := (rt6Match env · cf)) memN hitN
    have pos := List.length_pos_of_mem memN
    have count := hN.count
    simp only [Nat.zero_add, first, Option.isSome_some, if_true]
    split
    · next empty =>
      -- the node held this one route: it is unlinked
      have gone : N.routes.eraseP (rt6Match env · cf) = [] :=
        List.eq_nil_of_length_eq_zero (by omega)
      have dropped : t.htable.eraseIdx A.length = A ++ B := by
        rw [cut, List.eraseIdx_append_of_length_le le_rfl, Nat.sub_self, List.eraseIdx_cons_zero]
      rw [dropped]
      refine ⟨ok.remove cut (by omega) _, ?_, trivial⟩
      · show (A ++ B).flatMap Rt6Hlist.routes = _
        rw [unlinked, gone, List.flatMap_append]
        simp
    · next kept =>
      -- the node keeps its other routes
      have replaced : ∀ N' : Rt6Hlist, t.htable.set A.length N' = A ++ N' :: B := by
        intro N'
        rw [cut, List.set_append_right _ _ le_rfl, Nat.sub_self, List.set_cons_zero]
      rw [replaced]
      have shape := hN.modify (k := rt6HlistHashkey env cf.dst.addr N.plen N.nbuckets)
        (g := (·.eraseP (rt6Match env · cf)))
        (fun a h => hN.mem_bucket (List.mem_of_mem_eraseP h))
        (n := N.nroutes - 1) (by rw [erased]; omega)
      have routes' : Rt6Hlist.routes { N with
          hlist := N.hlist.modify (rt6HlistHashkey env cf.dst.addr N.plen N.nbuckets)
            (·.eraseP (rt6Match env · cf))
          nroutes := N.nroutes - 1 } = N.routes.eraseP (rt6Match env · cf) := erased
      refine ⟨ok.replace cut ⟨shape, show 0 < N.nroutes - 1 by omega⟩ rfl ?_ _, ?_, trivial⟩
      · rw [routes']
        omega
      · show (A ++ _ :: B).flatMap Rt6Hlist.routes = _
        rw [routes_cut, unlinked, routes']

end Del

/-! ## Flush -/

@[simp] theorem routes_filter (N : Rt6Hlist) (q : Route6 → Bool) (n : Int) :
    Rt6Hlist.routes { N with hlist := N.hlist.map (·.filter q), nroutes := n } =
      N.routes.filter q := by
  simp [Rt6Hlist.routes, List.filter_flatten]

/-- A node after the flush loop has been over it, when it keeps a route. -/
theorem HlistOk.flushed {N : Rt6Hlist} (hN : HlistOk env N) (victim : Route6 → Bool)
    (kept : N.nroutes - ((N.routes.filter victim).length : Int) ≠ 0) :
    HlistOk env { N with
      hlist := N.hlist.map (·.filter fun rt6 => !victim rt6)
      nroutes := N.nroutes - (N.routes.filter victim).length } := by
  have split := List.length_eq_length_filter_add (l := N.routes) victim
  have count := hN.count
  refine ⟨⟨hN.plen_nonneg, hN.plen_le, hN.nbuckets, by simp [hN.length],
    hN.placed.map_filter _, fun rt6 h => ?_, ?_⟩, ?_⟩
  · -- a route kept is a route the node had
    rw [routes_filter] at h
    exact hN.plens rt6 (List.mem_filter.mp h).1
  · dsimp only
    rw [routes_filter]
    omega
  · dsimp only
    omega

/-- The flush loop keeps, in order, the routes that do not go, in nodes of the table, and
hands the routes that go over in order; with `flush_all` every node empties, so its
`assert` holds. -/
theorem flushNodes_spec {flushAll : Bool} {victim : Route6 → Bool}
    (all : flushAll = true → ∀ rt6, victim rt6 = true) :
    ∀ {nodes : List Rt6Hlist}, (∀ N ∈ nodes, HlistOk env N) →
      nodes.Pairwise (fun a b => b.plen < a.plen) →
      ∃ kept, flushNodes flushAll victim nodes =
          some (kept, (nodes.flatMap Rt6Hlist.routes).filter victim) ∧
        kept.flatMap Rt6Hlist.routes = (nodes.flatMap Rt6Hlist.routes).filter (!victim ·) ∧
        (∀ N ∈ kept, HlistOk env N) ∧ kept.Pairwise (fun a b => b.plen < a.plen) ∧
        ∀ N ∈ kept, ∃ M ∈ nodes, N.plen = M.plen
  | [], _, _ => ⟨[], rfl, rfl, by simp, .nil, by simp⟩
  | N :: rest, ok, sorted => by
    have hN := ok N (by simp)
    obtain ⟨keptRest, loop, routes, keptOk, keptSorted, origin⟩ :=
      flushNodes_spec all (fun M hM => ok M (by simp [hM])) sorted.of_cons
    have gone : N.hlist.flatMap (·.filter victim) = N.routes.filter victim := by
      simp [Rt6Hlist.routes, List.filter_flatten, List.flatMap_def]
    have split := List.length_eq_length_filter_add (l := N.routes) victim
    have count := hN.count
    have whole : ((N :: rest).flatMap Rt6Hlist.routes).filter victim =
        N.routes.filter victim ++ (rest.flatMap Rt6Hlist.routes).filter victim := by
      rw [List.flatMap_cons, List.filter_append]
    -- with `flush_all` the node loses every route
    have asserted :
        ¬(flushAll = true ∧ N.nroutes - ((N.routes.filter victim).length : Int) ≠ 0) := by
      rintro ⟨flush, left⟩
      have none : (N.routes.filter (!victim ·)).length = 0 := by simp [all flush]
      omega
    unfold flushNodes
    dsimp only
    rw [gone, if_neg asserted, loop, Option.map_some, whole]
    dsimp only
    by_cases empty : N.nroutes - ((N.routes.filter victim).length : Int) = 0
    · -- the node empties and is unlinked
      rw [if_pos empty]
      have none : N.routes.filter (!victim ·) = [] :=
        List.eq_nil_of_length_eq_zero (by omega)
      refine ⟨keptRest, rfl, ?_, keptOk, keptSorted, fun M hM => ?_⟩
      · rw [routes, List.flatMap_cons, List.filter_append, none, List.nil_append]
      · obtain ⟨M', hM', same⟩ := origin M hM
        exact ⟨M', by simp [hM'], same⟩
    · -- the node keeps routes and stays ahead of the shorter prefixes
      rw [if_neg empty]
      refine ⟨_, rfl, ?_, ?_, ?_, ?_⟩
      · rw [List.flatMap_cons, routes_filter, routes, List.flatMap_cons, List.filter_append]
      · intro M hM
        rcases List.mem_cons.mp hM with rfl | hM
        · exact hN.flushed victim empty
        · exact keptOk M hM
      · refine List.Pairwise.cons (fun M hM => ?_) keptSorted
        obtain ⟨M', hM', same⟩ := origin M hM
        rw [same]
        exact (List.pairwise_cons.mp sorted).1 M' hM'
      · intro M hM
        rcases List.mem_cons.mp hM with rfl | hM
        · exact ⟨N, by simp, rfl⟩
        · obtain ⟨M', hM', same⟩ := origin M hM
          exact ⟨M', by simp [hM'], same⟩

section Flush

variable {t : Rt6Htable} (ok : HtableOk env t)
include ok

/-- `rt6_hlist_flush_lcore` keeps the shape of the table and its `assert`s hold: the
routes on the named device, or every route, leave the table in order for
`route6_free`, and the others stay in order. -/
theorem rt6HlistFlushLcore_spec (cf : Option Route6Conf) :
    ∃ t', rt6HlistFlushLcore t cf = some (.ok, t') ∧ HtableOk env t' ∧
      t'.routes = t.routes.filter (!flushVictim cf ·) ∧
      t'.dustbin = (t.routes.filter (flushVictim cf)).foldl route6Free t.dustbin := by
  have all : (flushIfname cf).isEmpty = true → ∀ rt6, flushVictim cf rt6 = true :=
    fun empty rt6 => by simp [flushVictim, empty]
  obtain ⟨kept, loop, routes, keptOk, keptSorted, -⟩ := flushNodes_spec all ok.nodes ok.sorted
  change flushNodes _ _ t.htable = some (kept, t.routes.filter (flushVictim cf)) at loop
  change kept.flatMap Rt6Hlist.routes = t.routes.filter (!flushVictim cf ·) at routes
  refine ⟨⟨t.nroutes - (t.routes.filter (flushVictim cf)).length, kept,
      (t.routes.filter (flushVictim cf)).foldl route6Free t.dustbin⟩,
    by rw [rt6HlistFlushLcore, loop]; rfl, ⟨keptOk, keptSorted, ?_⟩, routes, rfl⟩
  -- one count down per route that goes
  show t.nroutes - _ = ((kept.flatMap Rt6Hlist.routes).length : Int)
  have split := List.length_eq_length_filter_add (l := t.routes) (flushVictim cf)
  rw [routes, ok.count]
  omega

end Flush

/-! ## Lookup -/

/-- A route of a shaped node that a flow matches hashes where the flow's destination
does: the prefixes agree (`ipv6AddrPrefix_eq_of_prefixEqual`), or, for a full-length
prefix, the addresses do. -/
theorem HlistShape.hash_of_flowMatch {N : Rt6Hlist} (s : HlistShape env N) (daddr : InetAddr)
    (oif : Option Dev) : ∀ rt6 ∈ N.routes, rt6HlistFlowMatch rt6 daddr oif = true →
      N.hash env rt6 = rt6HlistHashkey env daddr N.plen N.nbuckets := by
  intro rt6 mem hit
  have plen := s.plens rt6 mem
  have nonneg := s.plen_nonneg
  unfold rt6HlistFlowMatch at hit
  rw [Bool.and_eq_true] at hit
  unfold Rt6Hlist.hash rt6HlistHashkey
  split at hit
  · next short =>
    -- the prefix length the match reads is the node's
    have cast : (rt6.dst.plen % 4294967296).toNat = N.plen.toNat := by omega
    rw [cast] at hit
    rw [ipv6AddrPrefix_eq_of_prefixEqual hit.1]
  · rw [beq_iff_eq.mp hit.1]

/-- A node that takes a reference on its first route matching the flow keeps its
shape: the routes keep their prefixes. -/
theorem HlistOk.hold {N : Rt6Hlist} (hN : HlistOk env N) (daddr : InetAddr) (oif : Option Dev) :
    HlistOk env { N with
      hlist := N.hlist.modify (rt6HlistHashkey env daddr N.plen N.nbuckets)
        (FirstMatch.update (rt6HlistFlowMatch · daddr oif) rt6Hold) } := by
  have edited := hN.placed.flatten_modify_update (hN.hash_of_flowMatch daddr oif) rt6Hold
  refine ⟨hN.modify (fun a h => ?_) (n := N.nroutes) ?_, hN.nonempty⟩
  · -- a route of the edited bucket has the prefix of a route the bucket had
    have dsts := FirstMatch.map_update (p := (rt6HlistFlowMatch · daddr oif)) rt6Hold
      (fun rt6 : Route6 => rt6.dst) (fun _ => rfl)
      (N.hlist.getD (rt6HlistHashkey env daddr N.plen N.nbuckets) [])
    have mem := List.mem_map_of_mem (f := fun rt6 : Route6 => rt6.dst) h
    rw [dsts] at mem
    obtain ⟨x, hx, same⟩ := List.mem_map.mp mem
    obtain ⟨plen, hash⟩ := hN.mem_bucket hx
    refine ⟨?_, ?_⟩
    · rw [← same]
      exact plen
    · rw [← hash]
      simp only [Rt6Hlist.hash, same]
  · rw [edited, FirstMatch.length_update]
    exact hN.count

/-- The walk of `rt6_hlist_lookup` takes a reference on the first route of the nodes
that matches the flow, and keeps the nodes' shapes and lengths. -/
theorem rt6HlistLookupFrom_spec (daddr : InetAddr) (oif : Option Dev) :
    ∀ {nodes : List Rt6Hlist}, (∀ N ∈ nodes, HlistOk env N) →
      (rt6HlistLookupFrom env daddr oif nodes).1 =
          ((nodes.flatMap Rt6Hlist.routes).find? (rt6HlistFlowMatch · daddr oif)).map rt6Hold ∧
        (rt6HlistLookupFrom env daddr oif nodes).2.flatMap Rt6Hlist.routes =
          FirstMatch.update (rt6HlistFlowMatch · daddr oif) rt6Hold
            (nodes.flatMap Rt6Hlist.routes) ∧
        (∀ N ∈ (rt6HlistLookupFrom env daddr oif nodes).2, HlistOk env N) ∧
        (rt6HlistLookupFrom env daddr oif nodes).2.map Rt6Hlist.plen = nodes.map Rt6Hlist.plen
  | [], _ => ⟨rfl, rfl, by simp [rt6HlistLookupFrom], rfl⟩
  | N :: rest, ok => by
    have hN := ok N (by simp)
    obtain ⟨first, routes, restOk, plens⟩ :=
      rt6HlistLookupFrom_spec daddr oif (fun M (hM : M ∈ rest) => ok M (by simp [hM]))
    have keyed := hN.hash_of_flowMatch daddr oif
    unfold rt6HlistLookupFrom
    dsimp only
    -- the bucket of the destination holds the node's first match
    have bucket : (N.hlist.getD (rt6HlistHashkey env daddr N.plen N.nbuckets) []).find?
        (rt6HlistFlowMatch · daddr oif) = N.routes.find? (rt6HlistFlowMatch · daddr oif) :=
      hN.placed.find?_getD keyed
    rw [bucket]
    rw [List.flatMap_cons, List.find?_append]
    cases hit : N.routes.find? (rt6HlistFlowMatch · daddr oif) with
    | some rt6 =>
      refine ⟨rfl, ?_, ?_, rfl⟩
      · rw [List.flatMap_cons, FirstMatch.update_append_left _ hit]
        exact congrArg (· ++ _) (hN.placed.flatten_modify_update keyed rt6Hold)
      · intro M hM
        rcases List.mem_cons.mp hM with rfl | hM
        · exact hN.hold daddr oif
        · exact ok M (by simp [hM])
    | none =>
      refine ⟨by rw [Option.none_or]; exact first, ?_, ?_, by simp [plens]⟩
      · rw [List.flatMap_cons, FirstMatch.update_append_right _ hit, routes]
      · intro M hM
        rcases List.mem_cons.mp hM with rfl | hM
        · exact hN
        · exact restOk M hM

section Lookup

variable {t : Rt6Htable} (ok : HtableOk env t)
include ok

/-- `rt6_hlist_lookup` takes a reference on the first route of the table that matches
the flow, in the table and in what it returns, and keeps the shape of the table. -/
theorem rt6HlistLookup_spec (daddr : InetAddr) (oif : Option Dev) :
    (rt6HlistLookup env t daddr oif).1 =
        (t.routes.find? (rt6HlistFlowMatch · daddr oif)).map rt6Hold ∧
      (rt6HlistLookup env t daddr oif).2.routes =
        FirstMatch.update (rt6HlistFlowMatch · daddr oif) rt6Hold t.routes ∧
      HtableOk env (rt6HlistLookup env t daddr oif).2 := by
  obtain ⟨first, routes, nodesOk, plens⟩ := rt6HlistLookupFrom_spec daddr oif ok.nodes
  refine ⟨first, routes, nodesOk, sorted_of_map_plen plens ok.sorted, ?_⟩
  · show t.nroutes = (Rt6Htable.routes ⟨_, _, _⟩).length
    rw [Rt6Htable.routes, routes, FirstMatch.length_update]
    exact ok.count

/-- The routes of the table come by non-increasing prefix length. -/
theorem HtableOk.descending : SortedScan.Descending (fun rt6 : Route6 => rt6.dst.plen) t.routes := by
  unfold SortedScan.Descending Rt6Htable.routes
  rw [List.pairwise_flatMap]
  refine ⟨fun N hN => ?_, ?_⟩
  · -- within a node every route has the node's length
    have plens := (ok.nodes N hN).plens
    exact List.pairwise_of_forall_mem_list fun a ha b hb => by
      show b.dst.plen ≤ a.dst.plen
      rw [plens a ha, plens b hb]
  · refine ok.sorted.imp_of_mem fun {N M} hN hM lt a ha b hb => ?_
    show b.dst.plen ≤ a.dst.plen
    rw [(ok.nodes N hN).plens a ha, (ok.nodes M hM).plens b hb]
    exact lt.le

/-- A lookup finds nothing exactly when no route of the table matches the flow. -/
theorem rt6HlistLookup_eq_none_iff (daddr : InetAddr) (oif : Option Dev) :
    (rt6HlistLookup env t daddr oif).1 = none ↔
      ∀ rt6 ∈ t.routes, rt6HlistFlowMatch rt6 daddr oif = false := by
  rw [(rt6HlistLookup_spec ok daddr oif).1, Option.map_eq_none_iff, List.find?_eq_none]
  simp

/-- What a lookup returns is a route of the table that matches the flow, with a
reference more, taken on the table's copy too; no route the flow matches has a
longer prefix. -/
theorem rt6HlistLookup_eq_some {daddr : InetAddr} {oif : Option Dev} {held : Route6}
    (h : (rt6HlistLookup env t daddr oif).1 = some held) :
    ∃ rt6 ∈ t.routes, rt6HlistFlowMatch rt6 daddr oif = true ∧ held = rt6Hold rt6 ∧
      (∀ other ∈ t.routes, rt6HlistFlowMatch other daddr oif = true →
        other.dst.plen ≤ rt6.dst.plen) ∧
      ∃ pre post, t.routes = pre ++ rt6 :: post ∧
        (rt6HlistLookup env t daddr oif).2.routes = pre ++ held :: post := by
  obtain ⟨first, routes, -⟩ := rt6HlistLookup_spec ok daddr oif
  rw [first] at h
  obtain ⟨rt6, found, rfl⟩ := Option.map_eq_some_iff.mp h
  obtain ⟨pre, post, cut, ahead, hit⟩ := FirstMatch.split_of_find? found
  refine ⟨rt6, List.mem_of_find?_eq_some found, hit, rfl,
    fun other mem flow => ok.descending.find?_max found other mem flow, pre, post, cut, ?_⟩
  rw [routes, cut, FirstMatch.update_split _ ahead hit]

end Lookup

/-! ## What the store answers -/

section Reading

variable {t : Rt6Htable} (ok : HtableOk env t)
include ok

/-- An add reports `EDPVS_EXIST` exactly when a route of the table matches the
request. -/
theorem rt6HlistAddLcore_exist_iff_mem (nodeAlloc routeAlloc : Bool) :
    (rt6HlistAddLcore env nodeAlloc routeAlloc t cf).1 = .exist ↔
      ∃ rt6 ∈ t.routes, rt6Match env rt6 cf = true := by
  rw [rt6HlistAddLcore_exist_iff, rt6HlistGet_eq ok, List.find?_isSome]

/-- Del unlinks the route `rt6_hlist_get` returns, and only it. -/
theorem rt6HlistDelLcore_of_get {rt6 : Route6} (h : rt6HlistGet env t cf = some rt6) :
    rt6Match env rt6 cf = true ∧ (rt6HlistDelLcore env t cf).1 = .ok ∧
      ∃ pre post, t.routes = pre ++ rt6 :: post ∧
        (rt6HlistDelLcore env t cf).2.routes = pre ++ post := by
  rw [rt6HlistGet_eq ok] at h
  obtain ⟨pre, post, cut, ahead, hit⟩ := FirstMatch.split_of_find? h
  obtain ⟨-, routes, code⟩ : HtableOk env (rt6HlistDelLcore env t cf).2 ∧ _ :=
    rt6HlistDelLcore_spec ok
  refine ⟨hit, by rw [code, h]; rfl, pre, post, cut, ?_⟩
  rw [routes, cut, FirstMatch.eraseP_split ahead hit]

end Reading

/-- Del of a request `rt6_hlist_get` finds nothing for changes nothing. -/
theorem rt6HlistDelLcore_of_get_none {t : Rt6Htable} (h : rt6HlistGet env t cf = none) :
    rt6HlistDelLcore env t cf = (.notexist, t) := by
  rw [rt6HlistGet, Option.map_eq_none_iff] at h
  rw [rt6HlistDelLcore, h]

/-! ## Runs -/

/-- Every call keeps the shape of the table, and none fails an `assert`. -/
theorem rt6HlistStep_ok {t : Rt6Htable} (ok : HtableOk env t) {c : Rt6HlistCall}
    (hc : c.plenOk = true) : ∃ t', rt6HlistStep env t c = some t' ∧ HtableOk env t' := by
  cases c with
  | add nodeAlloc routeAlloc cf =>
    simp only [Rt6HlistCall.plenOk, Bool.and_eq_true, decide_eq_true_eq] at hc
    exact ⟨_, rfl, (rt6HlistAddLcore_spec ok hc.1 hc.2 nodeAlloc routeAlloc).1⟩
  | del cf => exact ⟨_, rfl, (rt6HlistDelLcore_spec ok).1⟩
  | flush cf =>
    obtain ⟨t', flush, ok', -⟩ := rt6HlistFlushLcore_spec ok cf
    exact ⟨t', by rw [rt6HlistStep, flush]; rfl, ok'⟩
  | lookup daddr oif => exact ⟨_, rfl, (rt6HlistLookup_spec ok daddr oif).2.2⟩

/-- A run of calls with prefix lengths within `0..128` keeps the shape of the table
and runs to its end. -/
theorem rt6HlistRun_ok : ∀ {t : Rt6Htable} (calls : List Rt6HlistCall), HtableOk env t →
    (∀ c ∈ calls, c.plenOk = true) → ∃ t', rt6HlistRun env t calls = some t' ∧ HtableOk env t'
  | t, [], ok, _ => ⟨t, rfl, ok⟩
  | _, c :: cs, ok, plens => by
    obtain ⟨t₁, step, ok₁⟩ := rt6HlistStep_ok ok (plens c (by simp))
    obtain ⟨t', run, ok'⟩ := rt6HlistRun_ok cs ok₁ fun c' h => plens c' (by simp [h])
    exact ⟨t', by rw [rt6HlistRun, step, Option.bind_some, run], ok'⟩

/-- From `rt6_hlist_setup_lcore`, every run of adds, dels, flushes and lookups whose adds
carry prefix lengths within `0..128` runs to its end without a failed `assert`, in a
table of the store's shape, where an add keeps that shape and either changes nothing
or, returning `EDPVS_OK`, puts the request's route among the routes, an add reports
`EDPVS_EXIST` exactly when a route matches the request, del unlinks the route `rt6_hlist_get` returns, and a lookup
returns, with a reference taken in the table, a route of longest prefix among those
the flow matches, and `NULL` when there is none. -/
theorem rt6_hlist_store_run (env : Rt6Env) (calls : List Rt6HlistCall)
    (plens : ∀ c ∈ calls, c.plenOk = true) :
    ∃ t, rt6HlistRun env rt6HlistSetupLcore calls = some t ∧ HtableOk env t ∧
      (∀ nodeAlloc routeAlloc cf, 0 ≤ cf.dst.plen → cf.dst.plen ≤ 128 →
        HtableOk env (rt6HlistAddLcore env nodeAlloc routeAlloc t cf).2 ∧
          ((rt6HlistAddLcore env nodeAlloc routeAlloc t cf).2 = t ∨
            (rt6HlistAddLcore env nodeAlloc routeAlloc t cf).1 = .ok ∧
              ∃ pre post, t.routes = pre ++ post ∧
                (rt6HlistAddLcore env nodeAlloc routeAlloc t cf).2.routes =
                  pre ++ rt6FillWithCfg env cf :: post)) ∧
      (∀ nodeAlloc routeAlloc cf, (rt6HlistAddLcore env nodeAlloc routeAlloc t cf).1 = .exist ↔
        ∃ rt6 ∈ t.routes, rt6Match env rt6 cf = true) ∧
      (∀ cf rt6, rt6HlistGet env t cf = some rt6 →
        rt6Match env rt6 cf = true ∧ (rt6HlistDelLcore env t cf).1 = .ok ∧
          ∃ pre post, t.routes = pre ++ rt6 :: post ∧
            (rt6HlistDelLcore env t cf).2.routes = pre ++ post) ∧
      (∀ cf, rt6HlistGet env t cf = none → rt6HlistDelLcore env t cf = (.notexist, t)) ∧
      ∀ daddr oif,
        ((rt6HlistLookup env t daddr oif).1 = none ↔
          ∀ rt6 ∈ t.routes, rt6HlistFlowMatch rt6 daddr oif = false) ∧
        ∀ held, (rt6HlistLookup env t daddr oif).1 = some held →
          ∃ rt6 ∈ t.routes, rt6HlistFlowMatch rt6 daddr oif = true ∧ held = rt6Hold rt6 ∧
            (∀ other ∈ t.routes, rt6HlistFlowMatch other daddr oif = true →
              other.dst.plen ≤ rt6.dst.plen) ∧
            ∃ pre post, t.routes = pre ++ rt6 :: post ∧
              (rt6HlistLookup env t daddr oif).2.routes = pre ++ held :: post := by
  obtain ⟨t, run, ok⟩ := rt6HlistRun_ok calls (htableOk_setup env) plens
  exact ⟨t, run, ok,
    fun nodeAlloc routeAlloc _ h0 h128 => rt6HlistAddLcore_spec ok h0 h128 nodeAlloc routeAlloc,
    fun nodeAlloc routeAlloc _ => rt6HlistAddLcore_exist_iff_mem ok nodeAlloc routeAlloc,
    fun _ _ h => rt6HlistDelLcore_of_get ok h, fun _ h => rt6HlistDelLcore_of_get_none h,
    fun daddr oif => ⟨rt6HlistLookup_eq_none_iff ok daddr oif, fun _ h => rt6HlistLookup_eq_some ok h⟩⟩

/-- `fe80::/64` on `dpdk0` and `2001:db8:1::/48` on `dpdk1`, a lookup of `fe80::1`, the
link-local route deleted, then everything flushed. -/
def hlistSampleCalls : List Rt6HlistCall :=
  [.add true true (linkLocalOn "dpdk0"), .add true true (routeOn (sitePrefix 1) "dpdk1"),
    .lookup linkLocalHost none, .del (linkLocalOn "dpdk0"), .flush none]

theorem rt6_hlist_store_run_sample :
    (∀ c ∈ hlistSampleCalls, c.plenOk = true) ∧
    ∃ t, rt6HlistRun sampleEnv rt6HlistSetupLcore hlistSampleCalls = some t ∧
      HtableOk sampleEnv t ∧
      (∀ nodeAlloc routeAlloc cf, 0 ≤ cf.dst.plen → cf.dst.plen ≤ 128 →
        HtableOk sampleEnv (rt6HlistAddLcore sampleEnv nodeAlloc routeAlloc t cf).2 ∧
          ((rt6HlistAddLcore sampleEnv nodeAlloc routeAlloc t cf).2 = t ∨
            (rt6HlistAddLcore sampleEnv nodeAlloc routeAlloc t cf).1 = .ok ∧
              ∃ pre post, t.routes = pre ++ post ∧
                (rt6HlistAddLcore sampleEnv nodeAlloc routeAlloc t cf).2.routes =
                  pre ++ rt6FillWithCfg sampleEnv cf :: post)) ∧
      (∀ nodeAlloc routeAlloc cf,
        (rt6HlistAddLcore sampleEnv nodeAlloc routeAlloc t cf).1 = .exist ↔
          ∃ rt6 ∈ t.routes, rt6Match sampleEnv rt6 cf = true) ∧
      (∀ cf rt6, rt6HlistGet sampleEnv t cf = some rt6 →
        rt6Match sampleEnv rt6 cf = true ∧ (rt6HlistDelLcore sampleEnv t cf).1 = .ok ∧
          ∃ pre post, t.routes = pre ++ rt6 :: post ∧
            (rt6HlistDelLcore sampleEnv t cf).2.routes = pre ++ post) ∧
      (∀ cf, rt6HlistGet sampleEnv t cf = none →
        rt6HlistDelLcore sampleEnv t cf = (.notexist, t)) ∧
      ∀ daddr oif,
        ((rt6HlistLookup sampleEnv t daddr oif).1 = none ↔
          ∀ rt6 ∈ t.routes, rt6HlistFlowMatch rt6 daddr oif = false) ∧
        ∀ held, (rt6HlistLookup sampleEnv t daddr oif).1 = some held →
          ∃ rt6 ∈ t.routes, rt6HlistFlowMatch rt6 daddr oif = true ∧ held = rt6Hold rt6 ∧
            (∀ other ∈ t.routes, rt6HlistFlowMatch other daddr oif = true →
              other.dst.plen ≤ rt6.dst.plen) ∧
            ∃ pre post, t.routes = pre ++ rt6 :: post ∧
              (rt6HlistLookup sampleEnv t daddr oif).2.routes = pre ++ held :: post :=
  ⟨by decide, rt6_hlist_store_run sampleEnv hlistSampleCalls (by decide)⟩

end Dpvs.Route6Hlist
