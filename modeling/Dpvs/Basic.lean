import Mathlib

/-!
# Return codes and addresses

The pieces every DPVS module shares: the `EDPVS_*` return codes of
`include/conf/common.h`, the address union of `include/conf/inet.h` with its fold
`inet_addr_fold`, and its comparison `inet_addr_equal` and wildcard test
`inet_is_addr_any` from `src/inet.c`.

A C function of the data plane returns an `int` code and mutates the structures
it is given. The models return the code together with the new state, so that
what a failed call leaves behind is a statement about the model and not a
consequence of its type.
-/

namespace Dpvs

/-- The `EDPVS_*` codes that the modelled functions return. -/
inductive Edpvs where
  | ok
  | inval
  | nomem
  | exist
  | notexist
  | invpkt
  | noroute
  | frag
  | dpdkapifail
  | busy
  | notsupp
  | resource
  | overload
  | noroom
  | knicontinue
  | drop
  | idle
  deriving DecidableEq, Repr

/-- `AF_INET` of the Linux ABI. -/
def afInet : Int := 2

/-- `AF_INET6` of the Linux ABI. -/
def afInet6 : Int := 10

/-- `union inet_addr`: sixteen bytes as four 32-bit words in memory order; an IPv4
address is `in.s_addr`, the first word. -/
structure InetAddr where
  w0 : UInt32
  w1 : UInt32
  w2 : UInt32
  w3 : UInt32
  deriving DecidableEq, Repr

/-- `inet_addr_equal`: an IPv4 compare reads `in.s_addr` only; IPv6 and every other
family compare all sixteen bytes. -/
def inetAddrEqual (af : Int) (a b : InetAddr) : Bool :=
  if af = afInet then a.w0 == b.w0 else a == b

/-- An IPv4 address in the union, the other twelve bytes zero. -/
def InetAddr.ofV4 (s : UInt32) : InetAddr := ⟨s, 0, 0, 0⟩

/-- The four words of an address in memory order. -/
def InetAddr.words (a : InetAddr) : List UInt32 := [a.w0, a.w1, a.w2, a.w3]

/-- The sixteen bytes of an address in memory order, each word stored little-endian. -/
def InetAddr.bytes (a : InetAddr) : List UInt8 :=
  a.words.flatMap fun (w : UInt32) =>
    [w.toUInt8, (w >>> (8 : UInt32)).toUInt8, (w >>> (16 : UInt32)).toUInt8,
      (w >>> (24 : UInt32)).toUInt8]

/-- `rte_be_to_cpu_32` on the little-endian hosts DPVS runs on: a byte swap. -/
def beToCpu32 (x : UInt32) : UInt32 :=
  let byte1 : UInt32 := 0xff00
  (x <<< 24) ||| ((x &&& byte1) <<< 8) ||| ((x >>> 8) &&& byte1) ||| (x >>> 24)

/-- `inet_addr_fold`: the IPv4 address, or the xor of the four words of an IPv6 one. -/
def inetAddrFold (af : Int) (addr : InetAddr) : UInt32 :=
  if af = afInet then addr.w0
  else if af = afInet6 then addr.w0 ^^^ addr.w1 ^^^ addr.w2 ^^^ addr.w3
  else 0

/-- `inet_is_addr_any`. -/
def inetIsAddrAny (af : Int) (addr : InetAddr) : Bool :=
  if af = afInet then addr.w0 == 0
  else if af = afInet6 then addr == ⟨0, 0, 0, 0⟩
  else false

theorem inetAddrEqual_refl (af : Int) (a : InetAddr) : inetAddrEqual af a a = true := by
  unfold inetAddrEqual
  split <;> simp

end Dpvs
