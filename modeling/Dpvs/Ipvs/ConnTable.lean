import Dpvs.Ipvs.ConnState

/-!
# Lookups and the connection table

What `dp_vs_conn_get` can find depends on every connection in the table still
being allocated: the walk of a bucket reads each entry's tuple inside its
connection. `dp_vs_conn_new` hashes a connection before the SYN proxy saves the
client's ACK, and when that save fails it unbinds and frees the connection at
`unbind_laddr` without unhashing it, so the table keeps two entries inside freed
memory. `conn_flush` walks each bucket with `list_for_each_entry_safe`, which is
safe against removing the current entry only: the unhash of a connection also
removes its other entry, which is the saved next one whenever the two tuples
share a bucket.
-/

namespace Dpvs.Conn

/-! ## Walking into freed memory -/

/-- A bucket whose first entry belongs to a freed connection faults at once. -/
theorem scanBucket_dead_head (w : Worker) (test : Tuple → Bool) {h : Nat} (d : Dir)
    (rest : List Entry) (dead : w.conn? h = none) : scanBucket w test ((h, d) :: rest) = none := by
  simp [scanBucket, dead]

/-- The bucket of a connection's inbound tuple starts with one of its two entries
right after it is hashed. -/
theorem linked_bucket_head (tbl : Nat → List Entry) (h i j : Nat) :
    ∃ d rest, linkEntry (linkEntry tbl i (h, .inbound)) j (h, .outbound) i = (h, d) :: rest := by
  by_cases same : j = i
  · subst same
    exact ⟨.outbound, (h, .inbound) :: tbl j, by simp⟩
  · exact ⟨.inbound, tbl i, by simp [linkEntry_ne _ _ (Ne.symm same)]⟩

/-! ## A SYN-proxied connection that cannot save its ACK -/

/-- `dp_vs_conn_new` on the SYN-proxy path when the ACK cannot be saved: no connection
comes back and the object is freed, but its two entries stay linked. -/
theorem dpVsConnNew_of_synproxy_lost (env : HashEnv) (w : Worker) (param : ConnParam)
    (destId : Nat) (flags : UInt16) (out : NewOutcome) {rport : UInt16}
    (alloc : out.allocOk = true)
    (port : rportOf param (w.dests destId) flags out.ports = some rport)
    (noLimit : (w.dests destId).maxConn = 0)
    (xmit : hasXmit (w.dests destId).fwdmode = true)
    (notFnat : (w.dests destId).fwdmode ≠ dpvsFwdModeFnat)
    (proxied : flags &&& dpvsConnFSynproxy ≠ 0)
    (notTemplate : (flags ||| (w.dests destId).connFlags.toUInt16) &&& dpvsConnFTemplate = 0)
    (multi : (flags ||| (w.dests destId).connFlags.toUInt16) &&& dpvsConnFOnePacket = 0)
    (unhashed : (flags ||| (w.dests destId).connFlags.toUInt16) &&& dpvsConnFHashed = 0)
    (lost : out.synproxySaved = false) :
    (dpVsConnNew env w param destId flags out).1 = none ∧
      (dpVsConnNew env w param destId flags out).2.conn? w.nextHandle = none ∧
      (dpVsConnNew env w param destId flags out).2.table =
        linkEntry (linkEntry w.table (tupleBucket env (newConn param (w.dests destId) destId flags rport).tin)
          (w.nextHandle, .inbound))
          (tupleBucket env (newConn param (w.dests destId) destId flags rport).tout) (w.nextHandle, .outbound) := by
  obtain ⟨c, hc⟩ : ∃ c, newConn param (w.dests destId) destId flags rport = c := ⟨_, rfl⟩
  have cdest : c.dest = destId := by rw [← hc]; rfl
  have cflags : c.flags = flags := by rw [← hc]; rfl
  let merged : DpVsConn := { c with flags := flags ||| (w.dests destId).connFlags.toUInt16 }
  have notTemplate' : merged.isTemplate = false := by simp [merged, DpVsConn.isTemplate, notTemplate]
  -- the bind succeeds and leaves the merged connection at the new handle
  obtain ⟨w2, bind, live2, table2⟩ : ∃ w2,
      dpVsConnBindDest { w with conns := (w.nextHandle, c) :: w.conns, nextHandle := w.nextHandle + 1 }
        w.nextHandle = (.ok, w2) ∧ w2.conn? w.nextHandle = some merged ∧ w2.table = w.table := by
    have live : ({ w with conns := (w.nextHandle, c) :: w.conns, nextHandle := w.nextHandle + 1 } :
        Worker).conn? w.nextHandle = some c := by simp [Worker.conn?]
    rw [dpVsConnBindDest_of_noLimit live (by simpa [cdest] using noLimit)]
    simp only [cdest, xmit, if_true]
    refine ⟨_, rfl, ?_, rfl⟩
    rw [Worker.conn?_setDest, Worker.conn?_modifyConn_self, live]
    simp [merged, cflags, cdest]
  -- hashing links the two entries
  obtain ⟨w3, hashed, table3⟩ : ∃ w3, dpVsConnHash env w2 w.nextHandle = (.ok, w3) ∧
      w3.table = linkEntry (linkEntry w.table (tupleBucket env c.tin) (w.nextHandle, .inbound))
        (tupleBucket env c.tout) (w.nextHandle, .outbound) := by
    rw [dpVsConnHash_of_multi env live2 multi, dpVsConnHashRaw_of_unhashed env live2 unhashed notTemplate']
    exact ⟨_, rfl, by simp [table2, merged]⟩
  simp only [dpVsConnNew, alloc, port, hc, Bool.not_true, Bool.false_eq_true, if_false, bind]
  rw [connNewBound_of_synproxy_lost env notFnat (by simp [hashed]) proxied
    (UInt16.and_eq_zero_of_or_left notTemplate) lost, hashed]
  simp [table3]

/-- A SYN-proxied connection whose ACK cannot be saved is refused and freed, and the
next lookup of its own inbound tuple walks into the freed connection: the table
no longer describes the live connections. -/
theorem synproxy_failure_leaves_freed_entries (env : HashEnv) (w : Worker) (param : ConnParam)
    (destId : Nat) (flags : UInt16) (out : NewOutcome) {rport : UInt16}
    (alloc : out.allocOk = true)
    (port : rportOf param (w.dests destId) flags out.ports = some rport)
    (noLimit : (w.dests destId).maxConn = 0)
    (xmit : hasXmit (w.dests destId).fwdmode = true)
    (notFnat : (w.dests destId).fwdmode ≠ dpvsFwdModeFnat)
    (proxied : flags &&& dpvsConnFSynproxy ≠ 0)
    (notTemplate : (flags ||| (w.dests destId).connFlags.toUInt16) &&& dpvsConnFTemplate = 0)
    (multi : (flags ||| (w.dests destId).connFlags.toUInt16) &&& dpvsConnFOnePacket = 0)
    (unhashed : (flags ||| (w.dests destId).connFlags.toUInt16) &&& dpvsConnFHashed = 0)
    (lost : out.synproxySaved = false) :
    (dpVsConnNew env w param destId flags out).1 = none ∧
      (dpVsConnNew env w param destId flags out).2.conn? w.nextHandle = none ∧
      dpVsConnGet env (dpVsConnNew env w param destId flags out).2 param.af param.proto
        param.caddr param.vaddr param.cport param.vport false = none := by
  obtain ⟨refused, freed, table⟩ := dpVsConnNew_of_synproxy_lost env w param destId flags out
    alloc port noLimit xmit notFnat proxied notTemplate multi unhashed lost
  refine ⟨refused, freed, ?_⟩
  obtain ⟨d, rest, head⟩ := linked_bucket_head w.table w.nextHandle
    (tupleBucket env (newConn param (w.dests destId) destId flags rport).tin)
    (tupleBucket env (newConn param (w.dests destId) destId flags rport).tout)
  -- the probe is the inbound tuple itself, so it hashes to that tuple's bucket
  have bucket : (dpVsConnHashkey env param.af param.caddr param.cport param.vaddr param.vport
      dpvsConnTblMask).toNat = tupleBucket env (newConn param (w.dests destId) destId flags rport).tin :=
    rfl
  simp only [dpVsConnGet, Bool.false_eq_true, if_false, bucket, table, head,
    scanBucket_dead_head _ _ _ _ freed]

/-- A NAT destination `10.0.0.2:80`. -/
def natDest : Dest := { localnodeDest with fwdmode := dpvsFwdModeNat }

/-- The client of `clientParam` through a SYN-proxied NAT service, with the ACK
mempool empty. -/
theorem synproxy_failure_leaves_freed_entries_nat :
    (dpVsConnNew zeroHash (Worker.empty fun _ => natDest) clientParam 0 dpvsConnFSynproxy
        ⟨true, none, .error .resource, false⟩).1 = none ∧
      (dpVsConnNew zeroHash (Worker.empty fun _ => natDest) clientParam 0 dpvsConnFSynproxy
        ⟨true, none, .error .resource, false⟩).2.conn? 0 = none ∧
      dpVsConnGet zeroHash (dpVsConnNew zeroHash (Worker.empty fun _ => natDest) clientParam 0
          dpvsConnFSynproxy ⟨true, none, .error .resource, false⟩).2 afInet ipprotoTcp
        (InetAddr.ofV4 0x0100a8c0) (InetAddr.ofV4 0x0100000a) 1234 80 false = none :=
  @synproxy_failure_leaves_freed_entries zeroHash (Worker.empty fun _ => natDest) clientParam 0
    dpvsConnFSynproxy ⟨true, none, .error .resource, false⟩ 80 rfl (by decide) rfl (by decide)
    (by decide) (by decide) (by decide) (by decide) (by decide) rfl

end Dpvs.Conn
