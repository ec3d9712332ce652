import Dpvs.Basic
import Dpvs.Lib.FirstMatch
import Dpvs.Lib.SortedScan
import Dpvs.Ipvs.Dest
import Dpvs.Ipvs.Sched
import Dpvs.Ipvs.Conhash
import Dpvs.Route
import Dpvs.Ipv6.Route6Lpm
import Dpvs.Ipset.Hash
import Dpvs.Ipset.HashNet
import Dpvs.Timer
import Dpvs.Ipvs.ProxyProto
import Dpvs.Ipvs.Conn
import Dpvs.Ipvs.ConnState
import Dpvs.Ipvs.ConnTable
import Dpvs.Lib.FreeList
import Dpvs.SaPool.Pool
import Dpvs.SaPool.Flow
import Dpvs.SaPool.Invariant
import Dpvs.SaPool.Unique
import Dpvs.Ipvs.Wlc
import Dpvs.Ipvs.Wrr
import Dpvs.Ipvs.SynCookie
import Dpvs.Ipvs.SackAdjust
import Dpvs.Ipvs.Service
import Dpvs.Ipvs.Sockopt
import Dpvs.Neigh
import Dpvs.Lib.ModProbe
import Dpvs.Lib.RoundRobin
import Dpvs.Ipvs.Mh
import Dpvs.Ipv6.Prefix
import Dpvs.Lib.HashBuckets
import Dpvs.Ipv6.Route6Hlist
import Dpvs.Ipv6.Route6HlistStore
import Dpvs.Lib.WhileLoop
import Dpvs.Ipset.HashIp
import Dpvs.Lib.CycleWalk
import Dpvs.Ipvs.Rr
import Dpvs.Ipvs.ServiceMatch
import Dpvs.Ipvs.Persist
import Dpvs.Lib.Nibble
import Dpvs.Ipvs.Quic
import Dpvs.Tc.PfifoFast
import Dpvs.Tc.ClsMatch
import Dpvs.Lib.OnesComplement
import Dpvs.Ipv4.Forward
import Dpvs.Ipv6.Ndisc
import Dpvs.IpTunnel
import Dpvs.Mbuf
import Dpvs.Lldp
import Dpvs.Ipv4.Icmp
import Dpvs.Ipvs.IcmpRelay
import Dpvs.Ipv4.Fragment
import Dpvs.Lib.TokenBucket
import Dpvs.Tc.Tbf
import Dpvs.Lib.Memmove
import Dpvs.Ipvs.TcpPrune
