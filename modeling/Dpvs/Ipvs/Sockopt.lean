import Dpvs.Basic

/-!
# Message bodies of the SET handlers

`sockopt_ctl` in `src/ctrl.c` reads a header and then exactly `len` bytes of body into
`msg->data`, and hands both to the `set` handler of the command. What a handler does
with the body before it acts on the request is a list of accesses: the ranges of
`data[0, len)` it reads, a copy into a buffer of its own, and the multicast that sends
the body on to the other lcores.

`dp_vs_service_set` multicasts the body first and then copies all `len` bytes into
`unsigned char arg[MAX_ARG_LEN]` on the stack, with no check of `len` either way.
`dp_vs_dest_set` reads `num_dests` out of the body before it compares the length with
it. The guard of `laddr_sockopt_set`, `blklst_sockopt_set` and `whtlst_sockopt_set`,
`if (!conf && size < sizeof(*conf))`, cannot fire, since `msg->data` is never `NULL`.

The sizes are those of the structures of `include/conf/*.h` as x86-64 lays them out:
`union inet_addr` takes 16 bytes aligned to 4, `struct dp_vs_match` 108, and
`struct dp_vs_stats`, five 64-bit and five 32-bit counters, 64.
-/

namespace Dpvs

/-! `sizeof(dpvs_service_compat_t)`, `sizeof(dpvs_dest_compat_t)` and `MAX_ARG_LEN`, their
sum; `struct dp_vs_dest_front` with `num_dests` at offset 28; `struct dp_vs_laddr_conf`;
`struct dp_vs_blklst_conf` and `struct dp_vs_whtlst_conf`. -/

def sizeofDpvsServiceCompat : Nat := 264

def sizeofDpvsDestCompat : Nat := 120

def maxArgLen : Nat := sizeofDpvsServiceCompat + sizeofDpvsDestCompat

def sizeofDpVsDestFront : Nat := 148

def offsetofNumDests : Nat := 28

def sizeofDpVsLaddrConf : Nat := 184

def sizeofDpVsBlklstConf : Nat := 68

def sizeofDpVsWhtlstConf : Nat := 68

/-- What a handler does with the body. -/
inductive BodyAccess where
  /-- `msg_make` of the whole body and `multicast_msg_send` to the other lcores. -/
  | multicast
  /-- A read of `data[lo, hi)`. -/
  | read (lo hi : Nat)
  /-- `rte_memcpy(arg, data, n)`: `data[0, n)` read, `arg[0, n)` written. -/
  | copyToArg (n : Nat)
  deriving DecidableEq, Repr

/-- Where a handler goes after its accesses to the body. -/
inductive SetExit where
  | ret (code : Edpvs)
  /-- on to act on the request: the tables, or an ARP for `DPVS_SO_SET_GRATARP` -/
  | acts
  deriving DecidableEq, Repr

/-- The commands of `dp_vs_service_set`. -/
inductive SvcSockopt where
  | flush
  | zero
  | add
  | edit
  | del
  | adddest
  | editdest
  | deldest
  | gratarp
  deriving DecidableEq, Repr

/-- The commands of `dp_vs_dest_set`; `other` stands for every other id. -/
inductive DestSockopt where
  | addDests
  | delDests
  | editDests
  | other
  deriving DecidableEq, Repr

/-- The commands of `blklst_sockopt_set` and `whtlst_sockopt_set`. -/
inductive ListSockopt where
  | add
  | del
  | other
  deriving DecidableEq, Repr

/-- The body of `dp_vs_service_set` up to the decoding of the request, on the master
lcore or not. -/
def dpVsServiceSetAccess (isMaster : Bool) (opt : SvcSockopt) (len : Nat) :
    List BodyAccess × SetExit :=
  -- the vip of a gratuitous ARP is read as a `struct in_addr`
  if opt = .gratarp ∧ isMaster then ([.read 0 4], .acts)
  else
    let sent := if isMaster then [BodyAccess.multicast] else []
    if opt = .flush then (sent, .acts)
    else (sent ++ [.copyToArg len], .acts)

/-- `dp_vs_dest_set`; `numDests` is what lies at the offset of `num_dests`, which the
length check reads before it knows the body is that long. -/
def dpVsDestSetAccess (isMaster : Bool) (opt : DestSockopt) (len : Nat) (numDests : UInt32) :
    List BodyAccess × SetExit :=
  let count := [BodyAccess.read offsetofNumDests (offsetofNumDests + 4)]
  if len ≠ sizeofDpVsDestFront + numDests.toNat * sizeofDpvsDestCompat then (count, .ret .inval)
  else if isMaster ∧ opt = .other then (count, .ret .notsupp)
  else (count ++ (if isMaster then [.multicast] else []) ++ [.read 0 len], .acts)

/-- `laddr_sockopt_set`: the multicast, the guard on a `NULL` body, and the read of the
service key of the conf. -/
def laddrSockoptSetAccess (isMaster conf : Bool) (size : Nat) : List BodyAccess × SetExit :=
  let sent := if isMaster then [BodyAccess.multicast] else []
  if !conf && size < sizeofDpVsLaddrConf then (sent, .ret .inval)
  else (sent ++ [.read 0 sizeofDpVsLaddrConf], .acts)

/-- The body shared by `blklst_sockopt_set` and `whtlst_sockopt_set`: the guard on a
`NULL` body, then `ADD` and `DEL` read the whole conf on the master lcore, change its
table and multicast the conf. -/
def listSockoptSetAccess (confSize : Nat) (isMaster conf : Bool) (opt : ListSockopt)
    (size : Nat) : List BodyAccess × SetExit :=
  if !conf && size < confSize then ([], .ret .inval)
  else if opt = .other then ([], .ret .notsupp)
  else if !isMaster then ([], .ret .notsupp)
  else ([.read 0 confSize, .multicast], .acts)

/-- `blklst_sockopt_set`. -/
def blklstSockoptSetAccess (isMaster conf : Bool) (opt : ListSockopt) (size : Nat) :
    List BodyAccess × SetExit :=
  listSockoptSetAccess sizeofDpVsBlklstConf isMaster conf opt size

/-- `whtlst_sockopt_set`. -/
def whtlstSockoptSetAccess (isMaster conf : Bool) (opt : ListSockopt) (size : Nat) :
    List BodyAccess × SetExit :=
  listSockoptSetAccess sizeofDpVsWhtlstConf isMaster conf opt size

/-! ## Short and long bodies

`sockopt_ctl` passes `msg->data`, never `NULL`. An empty `ADD` body sent to the master is
multicast and copied, and the request is decoded from whatever `arg` holds; a body one
byte longer than `MAX_ARG_LEN` is copied past the end of `arg`. `dp_vs_dest_set` reads
four bytes of an empty body, and `blklst_sockopt_set` reads a whole conf out of it. -/

theorem set_handlers_use_short_bodies :
    dpVsServiceSetAccess true .add 0 = ([.multicast, .copyToArg 0], .acts) ∧
      0 < sizeofDpvsServiceCompat ∧
      dpVsServiceSetAccess false .add (maxArgLen + 1) = ([.copyToArg (maxArgLen + 1)], .acts) ∧
      (dpVsDestSetAccess false .addDests 0 0).1 = [.read 28 32] ∧
      blklstSockoptSetAccess true true .add 0 = ([.read 0 68, .multicast], .acts) := by
  decide

end Dpvs
