import CodeReview.Domain.Rows
set_option autoImplicit false

/-!
What becomes of each character in the name of a host: it is kept, spelled with other characters
(capitals in small letters, letters of another width or in circles as plain ones, some characters
with none at all), or refused. Characters that no row names are kept.

A row starts with a code point. A word after it is the number of code points to go on, with a
comma, unless that is zero; then how many code points the word is about, unless that is one; then
what becomes of them. An exclamation mark refuses them. After a greater-than sign stands the
spelling, its characters with points between them; the spelling of one character moves on by one
with each code point. After an asterisk it moves on by two, and so do the code points.
-/
namespace CodeReview.Domain.Mapping

inductive Outcome where
  | refused
  | shifted (stride : Nat) (target : Nat)
  | spelled (points : List Nat)
  deriving DecidableEq, Repr

/-- Code points at even distances with the same outcome. -/
structure Run where
  first : Nat
  count : Nat
  outcome : Outcome
  deriving DecidableEq, Repr

def Run.stride (r : Run) : Nat :=
  match r.outcome with
  | .shifted stride _ => stride
  | _ => 1

def Run.last (r : Run) : Nat :=
  r.first + (r.count - 1) * r.stride

def Run.has (r : Run) (c : Char) : Bool :=
  r.first ≤ c.toNat && c.toNat ≤ r.last && (c.toNat - r.first) % r.stride = 0

def isMark (c : Char) : Bool :=
  c = '!' || c = '>' || c = '*'

def readOutcome : List Char → Outcome
  | '*' :: cs => .shifted 2 (Rows.number cs)
  | '>' :: [] => .spelled []
  | '>' :: cs =>
    match Text.split '.' cs with
    | [one] => .shifted 1 (Rows.number one)
    | more => .spelled (more.map Rows.number)
  | _ => .refused

def readWord (position : Nat) (word : List Char) : Run :=
  let (gap, rest) := Rows.around ',' word
  let count := rest.takeWhile fun c => !isMark c
  ⟨position + Rows.number gap, if count = [] then 1 else Rows.number count,
    readOutcome (rest.dropWhile fun c => !isMark c)⟩

def readWords : Nat → List (List Char) → List Run
  | _, [] => []
  | position, word :: rest =>
    let r := readWord position word
    r :: readWords (r.last + 1) rest

def readRow (row : String) : List Run :=
  match Rows.words row with
  | start :: rest => readWords (Rows.number start) rest
  | [] => []

def rows : List String := [
  "1t q>2p 11,w! >w 7,>w.lk 1,>2p 2,> 1,>w.lg 2,2>1e >w.ld >qk 2,>w.mf >1d >33 1,>1d.6dg.1g",
  "59 >1d.6dg.1e >1f.6dg.1g 1,n>68 1,7>6w x,o*75 1,>2x.lj 1,2>2x.2y 2*8l 2,3*8q 1,2>30.53 4*8y",
  "95 >jg.32 n*97 1,>73 3*ai 1,>37 1,>gj 2*ar 1,>gk >aw 1,2>gm >b0 2,>d9 >gp >gr >b6 1,>gw >gz",
  "ba >h5 >h4 >bd 3,>hb >he 1,>hh 3*bl 1,>hs >bs 1,>hv 2,>bx 1,>i0 >c0 1,2>i2 2*c4 1,>ia >c9",
  "cc >cd 7,3>2s.am 3>30.2y 3>32.2y 8*cu 2,9*db 2,3>2s.3e >dx 1,>b9 >cf k*e1 1,>bi 1,9*f7",
  "fu >8rp >fw 1,>be >8rq 2,>g2 1,>ao >i1 >i4 5*g7 2p,>2w >h2 >2y >36 >hl >hn >ht >3b >3d",
  "k8 >w.li >w.lj >w.lm >w.mg >w.lf >w.ln 2,>gz >30 >37 >3c >id 2j,2>lc 1,>lv >lk.ld >qh 9,>",
  "og 2*oh 1,>jd 1,>on 1,2! >w.qh 3,>1n >s3 4! >w.ld >w.lk.ld >q4 >53 3>q5 ! >r0 ! 2>r1 1,h>q9",
  "pu ! 9>qr z,>rb >qa >qg >qt >r1 >qz >qu >qo 1,c*rd 1,>qi >qp >qr 1,>qg >qd 1,>s8 1,>qr >sb",
  "sd 3>or g>uo w>ts 1c,h*v5 9,r*wb 1,>y7 7*xu 2,1c*y9 1,! 12>129 ! >12f 1a,>12d.136 3,>12j",
  "13g >12t 3,! 1k,7! r,4! 6,h! m,! 2g,>17r.19w >18o.19w >1c7.19w >18q.19w 2s,! 1c,2! 1n,2!",
  "1iq e! 1n,2! 1d,2! f,! s,2! 1,! b,5! w,7! 23,! 39,>1sl.1to >1sm.1to >1sn.1to >1ss.1to",
  "1uk >1sx.1to >1sy.1to >1t7.1to >1tb.1to 10,! 8,2! 2,2! m,! 7,! 1,3! 4,2! 9,2! 2,2! 4,8!",
  "1y0 4! >1wh.1x8 >1wi.1x8 ! >1wv.1x8 4,2! p,2! 3,! 6,4! 2,2! m,! 7,! 1,>20i.20s ! 1,>20o.20s",
  "20n ! 2,2! 1,! 5,4! 2,2! 3,3! 1,7! >1zq.20s >1zr.20s >1zw.20s 1,! >20b.20s 7! h,a! 3,! 9,!",
  "236 ! m,! 7,! 2,! 5,2! a,! 3,! 3,2! 1,f! 4,2! c,7! 7,! 3,! 8,2! 2,2! m,! 7,! 2,! 5,2! 9,2!",
  "289 2! 3,5! 5,4! >275.27w >276.27w ! 5,2! i,a! 2,! 6,3! 3,! 4,3! 2,! 1,! 2,3! 2,3! 3,3!",
  "2be 4! 5,3! 3,! 4,2! 1,6! 1,e! l,5! d,! 3,! n,! g,2! 9,! 3,! 4,7! 2,! 3,! 2,2! 4,2! a,7!",
  "2h9 ! 3,! n,! a,! 5,2! 9,! 3,! 4,7! 2,5! 3,! 4,2! a,! 3,c! d,! 3,! 1f,! 3,! 6,4! g,2! q,!",
  "2o4 ! i,3! o,! 9,! 1,2! 7,3! 1,4! 6,! 1,! 8,6! a,2! 3,c! 1e,>2tp.2sy 7,4! t,11! 2,! 1,! 5,!",
  "2w4 ! 1,! c,>2x9.2wi a,2! 5,! 1,! 7,! a,2! >2wb.2vt >2wb.2w1 2,w! c,>2yz 1i,>30i.33r 4,!",
  "30t >30s.33r 4,>30x.33r 4,>312.33r 4,>317.33r c,>30g.33p 3,4! 2,>31t.31u 1,>31t.31w",
  "31y >33m.328 >33m.31t.328 >33n.328 >33n.31t.328 7,>31t.328 h,>32q.33r 4,! 4,>330.33r",
  "336 >335.33r 4,>33a.33r 4,>33f.33r c,>32o.33p 3,! f,! d,11! 4g,12>8w0 ! >8x3 5! >8x9 2!",
  "3cs >3bw 2q,2> 6g,! 4,2! 7,! 1,! 4,2! 15,! 4,2! x,! 4,2! 7,! 1,! 4,2! f,! 1l,! 4,2! 1v,2!",
  "3ul 3! q,6! 2e,2! 6>3xs 2! hs,! s,3! 2h,7! m,9! o,9! k,c! d,! 3,! 2,c! 1g,2> 14,2! a,6!",
  "4qi 6! b,5> a,6! 2h,7! 17,5! 1y,a! v,! c,4! c,4! 1,3! 16,2! 5,b! 18,4! q,6! b,3! 1q,2! 1t,!",
  "58d 2! b,6! a,6! e,2! 1b,! c,k! 25,! 4m,8! 1o,3! f,3! 1f,>tu >tw >u6 2>u9 >ua >ui >v7 >wuj",
  "5mx >5my 1,5! 17>3bk 2! 3>3ct 8,8! 17,5! 18,>2p >6e 2*2q >2t >d9 8>2v 1,>33 >f7 >34 >36",
  "5s0 2>38 >3b >2p 2>gg >5qa >2q 2>2s >gp 2>gr >2v 1,>2z >31 >97 >33 >gk 2>5qu >34 2>38 >5r1",
  "5sq >hb >3a >5r9 3>qa 2>qu >2x >36 2>39 2>qa >qp 2>qu d,>u5 y,>gi >2r >gl >6o >gs >2u >gv",
  "5uq >gx >h1 3>h4 >5tn >il >h9 >5tx >in >hd >hc 4>he >hk 2>hu >bv 2>i1 >5r0 2>i3 >3e 3>i8",
  "5vj >qg 1s,23*5xd 5,>2p.ji >601 2,>67 1,1c*61t 9,8>64g 6,2! 6>64w 2! 8,8>65c 8,8>65s 6,2!",
  "66g 6>668 2! 8,! >66p ! >66r ! >66t ! >66v 8,8>674 1,>q4 1,>q5 1,>q6 1,>q7 1,>r0 1,>r1",
  "67x >r2 2! >64g.qh >64h.qh >64i.qh >64j.qh >64k.qh >64l.qh >64m.qh >64n.qh >64g.qh >64h.qh",
  "68a >64i.qh >64j.qh >64k.qh >64l.qh >64m.qh >64n.qh >65c.qh >65d.qh >65e.qh >65f.qh >65g.qh",
  "68l >65h.qh >65i.qh >65j.qh >65c.qh >65d.qh >65e.qh >65f.qh >65g.qh >65h.qh >65i.qh >65j.qh",
  "68w >674.qh >675.qh >676.qh >677.qh >678.qh >679.qh >67a.qh >67b.qh >674.qh >675.qh >676.qh",
  "697 >677.qh >678.qh >679.qh >67a.qh >67b.qh 2,>67k.qh >q9.qh >q4.qh ! 1,>69i.qh 2>69c >67k",
  "69n >q4 >q9.qh >w.lv >qh >w.lv >w.n6 >w.lk.n6 >67o.qh >qf.qh >q6.qh ! 1,>69y.qh >67m >q5",
  "6a2 >67o >q6 >qf.qh >w.lv.lc >w.lv.ld >w.lv.n6 3,>pc 2! 2,2>6a8 >67q >q7 ! >w.lw.lc",
  "6am >w.lw.ld >w.lw.n6 3,>q8 4,2>6ao >67u >r1 >6at >w.lk.lc >w.lk.ld >2o 2! >67w.qh >qx.qh",
  "6b8 >r2.qh ! 1,>6ba.qh >67s >r0 >67w >r2 >qx.qh >w.ld >w.lw ! >w >w >w >w >w >w >w >w >w >w",
  "6bu >w > 2,2! 1,>6c0 5,>w.mr c,3! 1,7! >w 3,>6cy.6cy >6cy.6cy.6cy 1,>6d1.6d1 >6d1.6d1.6d1",
  "6d8 >x.x 1,>w.lh 8,>1r.1r >1r.x >x.1r d,>6cy.6cy.6cy.6cy 7,>w 5> 5! 6> >1c >2x 2! 6>1g >17",
  "6ez >6qa >1p 2>14 >32 a>1c >17 >6qa >1p 2>14 1,>2p >2t >33 >3c >gp >2w 4>2z >34 2>37 >3b",
  "6fy 2>3d 8,>36.37 s,b! x,f! >2p.1b.2r >2p.1b.37 >2r >4w.2r 1,>2r.1b.33 >2r.1b.39 >gr",
  "6ix >4w.2u 2>2v >2w >2w >2w >87 >2x >2x >30 2*30 >32.33 2,3>34 >36 >36 2,>37.31 >38.2t.30",
  "6jm >38.31 1,>3e 1,>qx 1,>3e 1,>2z >6d 2>2q 1,>2t 2>2t >6ku >31 >33 4>15c >2x 1,>2u.2p.3c",
  "6kc >qo >qb >qb >qo >6q9 4,>2s 2>2s 2>2x 6,>1d.6dg.1j >1d.6dg.1l >1d.6dg.1d.1c >1d.6dg.1f",
  "6l0 >1e.6dg.1f >1d.6dg.1h >1e.6dg.1h >1f.6dg.1h >1g.6dg.1h >1d.6dg.1i >1h.6dg.1i >1d.6dg.1k",
  "6l8 >1f.6dg.1k >1h.6dg.1k >1j.6dg.1k >1d.6dg >2x >2x.2x >2x.2x.2x >2x.3a >3a >3a.2x",
  "6li >3a.2x.2x >3a.2x.2x.2x >2x.3c >3c >3c.2x >3c.2x.2x >30 2>2r >31 >2x >2x.2x >2x.2x.2x",
  "6lv >2x.3a >3a >3a.2x >3a.2x.2x >3a.2x.2x.2x >2x.3c >3c >3c.2x >3c.2x.2x >30 2>2r >31",
  "6mb >6mc 5,>1c.6dg.1f 2,4! 4c,>6qz.6qz >6qz.6qz.6qz 1,>6r2.6r2 >6r2.6r2.6r2 6w,2>9hk 73,m!",
  "763 l! 9>1d >1d.1c >1d.1d >1d.1e >1d.1f >1d.1g >1d.1h >1d.1i >1d.1j >1d.1k >1d.1l >1e.1c",
  "778 >14.1d.15 >14.1e.15 >14.1f.15 >14.1g.15 >14.1h.15 >14.1i.15 >14.1j.15 >14.1k.15",
  "77g >14.1l.15 >14.1d.1c.15 >14.1d.1d.15 >14.1d.1e.15 >14.1d.1f.15 >14.1d.1g.15 >14.1d.1h.15",
  "77n >14.1d.1i.15 >14.1d.1j.15 >14.1d.1k.15 >14.1d.1l.15 >14.1e.1c.15 k! >14.2p.15 >14.2q.15",
  "78e >14.2r.15 >14.2s.15 >14.2t.15 >14.2u.15 >14.2v.15 >14.2w.15 >14.2x.15 >14.2y.15",
  "78m >14.2z.15 >14.30.15 >14.31.15 >14.32.15 >14.33.15 >14.34.15 >14.35.15 >14.36.15",
  "78u >14.37.15 >14.38.15 >14.39.15 >14.3a.15 >14.3b.15 >14.3c.15 >14.3d.15 >14.3e.15 q>2p",
  "79s q>2p >1c 10h,>6qz.6qz.6qz.6qz 2v,>1m.1m.1p >1p.1p >1p.1p.1p 2t,>8gt.mw 47,2! 3u,1c>8q8",
  "8rk >8rl 1,>h7 >5tp >hp 2,3*8rs 1,>gh >hd >gg >gi 1,>8s3 2,>8s6 6,>2y >3a 2>fz 1e*8sh",
  "8vf 2*8vg 4,>8vn 1,5! 19,! 1,5! 1,2! 1k,7! >8yp 1,e! o,9! 7,! 7,! 7,! 7,! 7,! 7,! 7,! 7,!",
  "95q 2! 4,s! q,! 4,>lal 2b,>vj3 c! >feo >ffs >fg6 >fgf >fh5 >fid >fik >fj4 >fju >g1r >g2t",
  "9aj >g2z >g3m >g46 >g4r >g68 >g6t >g74 >gbf >ge1 >get >gey >gfs >gg1 >ggs >gh5 >ghu >gja",
  "9b0 >gjs >gkj >h5j >h7j >hkb >hky >hl6 >hlh >hlz >ho3 >i1c >i2o >i60 >i6n >i76 >i7s >i9a",
  "9bh >i9d >ijf >ijp >ik1 >ike >inm >inu >inz >ir8 >iri >irv >is3 >its >iu9 >iur >iwz >jd4",
  "9by >jee >jez >jzj >jzo >k1z >k2f >k2s >k3d >k4g >k4l >kc0 >kco >kdk >l5s >l7m >l89 >l9v",
  "9cf >laj >las >laz >lcf >lck >ldg >m7f >mju >mk6 >mkb >mkf >mkn >ml5 >ml7 >mng >mtg >mtl",
  "9cw >n30 >n3a >n4o >n4v >n54 >n5c >n7v >n82 >nee >nel >nfy >ngf >nhq >nob >noi >noz >ny2",
  "9dd >o1k >o1q >o6s >o97 >oah >okz >ooo >p4m >p5d >p6y >p8d >pa9 >pak >paq >pbn >pdr >pe1",
  "9du >pnn >pnu >po3 >poc >pos >pp7 >ppb >pri >prm >prs >qj1 >qjv >qww >qx8 >qxv >r5q >r63",
  "9eb >r82 >r9c >rp3 >rpi >rpx >rqw >rrx >rxg >rxs >rzn >s6j >s7e >sd7 >sds >sdx >sk1 >sp5",
  "9es >ssm >sss >ssx >tiv >tj4 >tng >trq >trt >tt4 >tw1 >twe >twi >twp >tzf >u0d >u0j >u0x",
  "9f9 >u5k >u6z >u73 >uc6 >uc9 >ucs >ujs >ul4 >ulb >un9 >unj >unm >unw >uoq >uzp >vat >vb3",
  "9fq >vc5 >vcr >vcz >vd9 >vdd >veh >vel >vf2 >vf7 >vfk >vgb >vgq >vgy >vil >vj0 >vj4 16! >w",
  "9he >1a 1f,>9hu 1,>gg1 2>gg4 5,! 2e,2! 2,>w.9ll >w.9lm 2,>9l4.9l6 2n,>9mb.9mw 5! 17,! 2>3cw",
  "9pv >3hm >3cy 2>3ho 3>3cz 6>3hs >3dm 3>3d2 >3dt a>3d5 l>3fl > 2>3dg 2>3if >3ik >3im >3ir",
  "9rg >3iv >3ix >3do >3j1 >3j3 2>3dp >3ds 2>3du >3dz >3e1 5>3e3 >3ea >3ee >3eo >3ev >3f0",
  "9s2 2>3jl 3>3fb 2>3gk >3go 2>3gx >3h0 >3ha >3hd ! 2,>feo >fik >fex >h5n >fey >ffx >fez >n5e",
  "9sq >fh5 >ffd >fep >hm1 >h80 >fju 1y,a! g,>14.3cw.15 >14.3cy.15 >14.3cz.15 >14.3d1.15",
  "9vo >14.3d2.15 >14.3d3.15 >14.3d5.15 >14.3d7.15 >14.3d8.15 >14.3da.15 >14.3db.15 >14.3dc.15",
  "9vw >14.3dd.15 >14.3de.15 >14.xz4.15 >14.yvs.15 >14.zc4.15 >14.108s.15 >14.10p4.15",
  "9w3 >14.115g.15 >14.1224.15 >14.12ys.15 >14.13f4.15 >14.14bs.15 >14.14s4.15 >14.158g.15",
  "9wa >14.15os.15 >14.1654.15 >14.13p8.15 >14.1350.13ic.15 >14.1350.16f8.15 ! >14.feo.15",
  "9wh >14.fik.15 >14.fex.15 >14.h5n.15 >14.fis.15 >14.g31.15 >14.fer.15 >14.g2z.15 >14.fh9.15",
  "9wp >14.gg1.15 >14.kco.15 >14.m7f.15 >14.ldg.15 >14.kdk.15 >14.ssx.15 >14.h7j.15 >14.k4l.15",
  "9wx >14.kkq.15 >14.kcp.15 >14.ny6.15 >14.glp.15 >14.mm1.15 >14.rs1.15 >14.nz1.15 >14.gc4.15",
  "9x5 >14.fkz.15 >14.gos.15 >14.i1y.15 >14.nhf.15 >14.flt.15 >14.rt3.15 >14.ggk.15 >14.nzh.15",
  "9xd >14.fm9.15 >14.pnu.15 >14.po3.15 >gun >inw >k1z >oen 8,>34.38.2t >1e.1d >1e.1e >1e.1f",
  "9xw >1e.1g >1e.1h >1e.1i >1e.1j >1e.1k >1e.1l >1f.1c >1f.1d >1f.1e >1f.1f >1f.1g >1f.1h",
  "9y8 >3cw 2>3cy 3>3d1 >3d5 2>3d7 5>3da >xz4 >yvs >zc4 >108s >10p4 >115g >1224 >12ys >13f4",
  "9yv >14bs >14s4 >158g >15os >1654 >14c8.y5c >13p8.13dk >138w 1,>feo >fik >fex >h5n >fis",
  "9z9 >g31 >fer >g2z >fh9 >gg1 >kco >m7f >ldg >kdk >ssx >h7j >k4l >kkq >kcp >ny6 >glp >mm1",
  "9zq >rs1 >nz1 >gc4 >o2g >n5j >ho3 >six >g16 >ghc >lig >u11 >fm9 >g49 >l7n >fey >ffx >fez",
  "a07 >ijq >gkz >gfv >i3b >i1y >nhf >flt >rt3 >ggk >hlo >1f.1i >1f.1j >1f.1k >1f.1l >1g.1c",
  "a0m >1g.1d >1g.1e >1g.1f >1g.1g >1g.1h >1g.1i >1g.1j >1g.1k >1g.1l >1h.1c >1d.kco >1e.kco",
  "a0y >1f.kco >1g.kco >1h.kco >1i.kco >1j.kco >1k.kco >1l.kco >1d.1c.kco >1d.1d.kco",
  "a17 >1d.1e.kco >2w.2v >2t.36.2v >2t.3a >30.38.2s >9lu >9lw >9ly >9m0 2>9m2 >9m5 >9m7 >9m9",
  "a1l >9mb >9md >9mf >9mh >9mj >9ml >9mn >9mp >9ms >9mu >9mw 6>9my >9n6 >9n9 >9nc >9nf 5>9ni",
  "a2b >9no >9nq 6>9ns 4>9nz >fl0.gp8 >9lu.9n5.9oc.9mw >9lu.9nv.9n9.9lt >9lu.9o3.9ne.9lu",
  "a2r >9lu.9oc.9nv >9lw.9mz.9o3.9m8 >9lw.9o3.9mp >9ly.9m1.9o3 >9m0.9mh.9m7.9oc.9mx",
  "a2w >9m0.9oc.9m3.9oc >9m2.9o3.9mh >9m2.9oc.9nk >9m3.9lw.9nu >9m3.9nt.9mr.9mw",
  "a31 >9m3.9nx.9nu.9oc >9m4.9nx.9o3 >9m4.9o3.9ni >9m6.9m4 >9m6.9mz.9oc >9m5.9np.9nu.9oc",
  "a37 >9m6.9nv.9mo.9oc >9m5.9nx >9m5.9nx.9m8.9nt.9nk >9m5.9nx.9nl.9oc.9mw.9nv",
  "a3b >9m5.9nx.9nz.9mr.9mw >9m8.9nt.9nk >9m8.9nt.9nk.9mw.9o3 >9m7.9nv.9mk.9lw.9nx",
  "a3f >9m7.9nx.9oc.9n1 >9m9.9oc.9mh >9mb.9nv.9my >9mb.9oc.9nh >9md.9lw.9m7.9nv",
  "a3k >9md.9o3.9mp.9oc.9nk >9mf.9nu.9o3.9m8 >9mj.9o3.9mp >9mj.9o3.9mw >9mo.9oc.9mh >9mv.9mf",
  "a3q >9mx.9nv >9mw.9o3 >9my.9n2 >9n2.9mr.9mw >9n3.9lw.9ms >9n5.9oc.9mj.9o3.9mw >9n5.9oc.9ms",
  "a3x >9n4.9oc.9nw.9nv >9n8.9lu.9mh.9mw.9nv >9n8.9m7.9nv >9n8.9mb >9n7.9nv",
  "a42 >9n9.9lt.9nt.9mr.9mx >9n9.9lv.9oc.9mw >9na.9mr.9mf.9lz.9nv >9n9.9nt.9o3",
  "a46 >9nc.9m7.9mn.9oc.9nv >9ne.9ml >9ne.9mz.9n6 >9nc.9nv.9ms >9ne.9o3.9mh >9ne.9oc.9mg",
  "a4c >9nd.9oc.9mn >9nh.9lw.9o3.9mw >9ng.9nv.9mw >9nf.9o3 >9nh.9o3.9mx >9nf.9oc.9nv",
  "a4i >9nf.9oc.9o3 >9ni.9lw.9m7.9nx >9ni.9lw.9nv >9ni.9mr.9n3 >9ni.9nv.9m7",
  "a4n >9ni.9o3.9mf.9nr.9o3 >9nj.9m7.9nx.9o3 >9nj.9nu >9nj.9nu.9n4.9oc.9nv >9nl.9m4",
  "a4s >9nl.9m4.9mw.9o3 >9nl.9oc.9mw.9nv >9no.9oc.9mx >9no.9oc.9nv >9nq.9lu.9o3",
  "a4x >9nu.9mr.9mw.9nv >9nu.9nt >9nv.9n8.9oc >9nv.9oc.9na.9nv >9nw.9nk >9nw.9o3.9mw.9ma.9o3",
  "a53 >9nz.9mr.9mw >1c.m9l >1d.m9l >1e.m9l >1f.m9l >1g.m9l >1h.m9l >1i.m9l >1j.m9l >1k.m9l",
  "a5d >1l.m9l >1d.1c.m9l >1d.1d.m9l >1d.1e.m9l >1d.1f.m9l >1d.1g.m9l >1d.1h.m9l >1d.1i.m9l",
  "a5l >1d.1j.m9l >1d.1k.m9l >1d.1l.m9l >1e.1c.m9l >1e.1d.m9l >1e.1e.m9l >1e.1f.m9l >1e.1g.m9l",
  "a5t >2w.34.2p >2s.2p >2p.39 >2q.2p.36 >33.3a >34.2r >2s.31 >2s.31.1e >2s.31.1f >2x.39",
  "a63 >inn.jdc >k6l.gp8 >hlz.l7n >k5q.lh7 >kkq.irz.fmi.ny6 >34.2p >32.2p >qk.2p >31.2p >2z.2p",
  "a6d >2z.2q >31.2q >2v.2q >2r.2p.30 >2z.2r.2p.30 >34.2u >32.2u >qk.2u >qk.2v >31.2v >2z.2v",
  "a6o >2w.3e >2z.2w.3e >31.2w.3e >2v.2w.3e >38.2w.3e >qk.30 >31.30 >2s.30 >2z.30 >2u.31",
  "a6y >32.31 >qk.31 >31.31 >2r.31 >2z.31 >31.31.1e >2r.31.1e >31.1e >2z.31.1e >31.31.1f",
  "a78 >2r.31.1f >31.1f >2z.31.1f >31.6qd.37 >31.6qd.37.1e >34.2p >2z.34.2p >31.34.2p",
  "a7g >2v.34.2p >36.2p.2s >36.2p.2s.6qd.37 >36.2p.2s.6qd.37.1e >34.37 >32.37 >qk.37 >31.37",
  "a7o >34.3a >32.3a >qk.3a >31.3a >2z.3a >31.3a >34.3b >32.3b >qk.3b >31.3b >2z.3b >31.3b",
  "a80 >2z.qx >31.qx ! >2q.35 >2r.2r >2r.2s >2r.6qd.2z.2v ! >2s.2q >2v.3d >2w.2p >2w.34 >2x.32",
  "a8d >2z.2z >2z.31 >2z.38 >30.31 >30.32 >30.33.2v >30.3c >31.2q >31.2x.30 >31.33.30 >34.2w !",
  "a8p >34.34.31 >34.36 >37.36 >37.3a >3b.2q >3a.6qd.31 >2p.6qd.31 >1d.k4l >1e.k4l >1f.k4l",
  "a8z >1g.k4l >1h.k4l >1i.k4l >1j.k4l >1k.k4l >1l.k4l >1d.1c.k4l >1d.1d.k4l >1d.1e.k4l",
  "a98 >1d.1f.k4l >1d.1g.k4l >1d.1h.k4l >1d.1i.k4l >1d.1j.k4l >1d.1k.k4l >1d.1l.k4l >1e.1c.k4l",
  "a9g >1e.1d.k4l >1e.1e.k4l >1e.1f.k4l >1e.1g.k4l >1e.1h.k4l >1e.1i.k4l >1e.1j.k4l >1e.1k.k4l",
  "a9o >1e.1l.k4l >1f.1c.k4l >1f.1d.k4l >2v.2p.30 m8d,3! 1j,9! 9o,k! n*wu9 j,e*ww1 1,>ui >uk",
  "wzc 8! y,7*x0j 3,v*x0z 1,>x2n 8,2*x2y 1,>5tl 5*x33 4,>x3g 1,>h1 2,2*x3l 3,a*x3r 1,>h2 >gs",
  "x4c >gx >h8 >h6 1,>im >hz >il >xub 8*x4l 1,>x3o >hu >5u6 2*x54 1,>h0 8*x59 1,>bf >hj j! >37",
  "x6a >2r >2u >35 >x6e 2,>87 >9f 1f,3! a,6! 1k,8! 1y,8! c,6! 38,b! u,3! 26,! b,4! x,! 1j,9!",
  "xn2 2! a,2! 2v,o! s,a! 6,2! 6,2! 6,9! 7,! 7,! 18,>x0n >xtj >h7 >xua 9,>i5 2,4! 28>3vk 1a,2!",
  "xyy 6! 8mc,c! n,4! 1d,6is! >rpk >kc4 >s7e >rt4 >lw1 >fg2 >gkl >vj0 >vj0 >hn5 >ssx >gw7 >hmw",
  "1d71 >jcm >ne1 >p6t >qin >qt6 >r20 >sjz >kxu >ljv >mah >mvy >q4d >sq2 >uep >fia >ghh >l50",
  "1d7i >mjf >qi5 >v8e >ifk >m3v >qfh >r50 >jih >pnc >qvz >iq2 >kd3 >lm2 >mpo >slq >fpi >g53",
  "1d7z >gda >jwk >l3n >mj4 >nhj >pa9 >qh2 >qjg >s1b >tv6 >upb >v7e >nt8 >nzz >otc >q15 >t1g",
  "1d8g >vb3 >rfa >hjz >iro >okg >pdq >mle >nuy >rsy >ttj >hjs >i8y >kyb >lp6 >lxr >oq7 >oxj",
  "1d8x >tor >gcy >pe3 >g64 >g5o >o4c >ou6 >q29 >tpx >rk0 >jin >kxu >rge >fg9 >i5j >iz6 >mtj",
  "1d9e >n74 >gev >nwb >fr3 >iw9 >ff1 >lho >k1k >opu >gjn >hge >ni9 >q4p >re2 >la2 >sds >lfs",
  "1d9v >jjy >put >jog >n6t >fji >g2x >g5l >kn5 >oo7 >prj >rf6 >ssv >gdx >gn6 >ho3 >ir0 >k3p",
  "1dac >m4e >nxm >tkd >ui2 >vbr >vda >gbf >kau >l87 >sbm >ino >j9s >jcw >jve >lyb >mdl >n0p",
  "1dat >o22 >ovo >pdb >s9y >q9a >sgz >t3e >g7r >gbn >gql >ma0 >r0i >re2 >iq1 >iyd >jnf >l9q",
  "1dba >oji >mt1 >fl0 >h6h >i5j >iii >izg >muq >mzt >p7e >pc6 >svo >tti >tvs >u1k >fpn >o1a",
  "1dbr >ss4 >trs >j4x >fie >fyy >i5q >i7z >k2h >kxu >mha >ncy >q9o >sjg >vil >k94 >tny >gax",
  "1dc8 >kfv >kj7 >lkx >luk >mx5 >n6h >nsb >opc >u3i >g31 >je6 >tq0 >fu3 >ie1 >lpm >sa2 >ivf",
  "1dcp >j7o >kk7 >mtj >tqe >g89 >glr >i91 >k5v >kem >ko8 >lid >mx2 >naa >p6h >r0v >r1d >sss",
  "1dd6 >tsy >gfz >lve >gm5 >mhc >n14 >qgq >tr7 >uvr >vbz >kgn >lor >pns >o97 >obk >olu >mo0",
  "1ddn >m8p >riw >fk0 >px2 >g8q >g7b >ip2 >jir >onq >i2t >ljy >kac >saj >qx8 >tot >r63 >iqb",
  "1de4 >g1s >gxs 2,>hga 1,>k8k 2,>g66 >mqy >ngq >ny4 >nz2 >nz9 >o0f >tw6 >on2 >p8d 1,>qhe",
  "1deq >rg8 2,>shk >sn1 3,>u7j >u7w >u94 >v5g >sm6 >trr >fqm >fzb >g25 >gcp >gdg >ggh >gwt",
  "1dfb >gzq >h2g >hfk >hig >i90 >i9a >j2s >j8o >j9q >jci >k0f >k4i >k9d >kn9 >lmf >lqy >lya",
  "1dfs >mem >mjv >mxu >ntd >ny6 >nyh >nyg >nyo >nyu >nz1 2>o0d >o5c >o75 >og0 >ovo >ow9 >oxt",
  "1dga >p6a >pad >pnx >prt >prt >q53 >r2o >r6e >rgh >ri1 >rtf >ruw >sdy >shk >tsz >u0v >u2j",
  "1dgr >j1x >36cu >pp4 2! >ffq >g51 >g2w >fpc >g1x >g3k >gcn >ge2 >gwt >gut >gwp >gyq >hga",
  "1dh9 >hir >hms >hn8 >huq >i08 >iqa >iqh >iuh >iwd >j4o >j7y >j60 >j9q >j8g >jci >jec >jpg",
  "1dhq >jrw >jte >k0m >k8k >kd3 >kd7 >keu >l89 >la2 >lkx >lwb >lvv >lya >m5a >mem >nmv >mk5",
  "1di7 >mnj >mqy >n01 >n46 >n5n >nbx >nbz >ngq >nh7 >nhw >nka >nk0 >nv0 >o8h >og0 >ol7 >orf",
  "1dio >ovo >p4u >pad >pxu >q27 >qrd >r41 >r5y >r6e >ren >rg8 >rez >rgh >rge >rfx >ri1 >rka",
  "1dj5 >ruw >sag >sj6 >srd >sxi >tq4 >tsz >tw6 >tzv >u0v >u17 >u2j >umq >vj0 >313e >3138",
  "1djl >33dh >brx >cns >cop >39e1 >3bgw >3i6r >vgj >vim 12! >2u.2u >2u.2x >2u.30 >2u.2u.2x",
  "1dl0 >2u.2u.30 2>37.38 c! >12s.12u >12s.12d >12s.12j >132.12u >12s.12l 5! >15l.14k",
  "1dlr >16a.14n >15u >15c 2>15f 3>15n >160 >162 >17 >161.14x >161.14y >161.14s.14x",
  "1dm5 >161.14s.14y >15c.14n >15c.14o >15c.14s >15d.14s >15e.14s >15f.14s >15g.14s >15h.14s",
  "1dme >15i.14s ! >15k.14s >15l.14s >15m.14s >15n.14s >15o.14s ! >15q.14s ! >15s.14s >15t.14s",
  "1dmq ! >15v.14s >15w.14s ! >15y.14s >15z.14s >160.14s >161.14s >162.14s >15h.14p >15d.14v",
  "1dn1 >15n.14v >15w.14v >15c.15o >19t >19t >1a3 >1a3 >1a3 >1a3 >1a6 >1a6 >1a6 >1a6 >1a8 >1a8",
  "1dng >1a8 >1a8 >1a2 >1a2 >1a2 >1a2 >1a7 >1a7 >1a7 >1a7 >1a1 >1a1 >1a1 >1a1 >1b8 >1b8 >1b8",
  "1dnx >1b8 >1ba >1ba >1ba >1ba >1ac >1ac >1ac >1ac >1ab >1ab >1ab >1ab >1ae >1ae >1ae 2>1ae",
  "1dof >1af >1af >1af >1al >1al >1ak >1ak >1am >1am >1ag >1ag >1aw >1aw >1ap >1ap >1bd >1bd",
  "1dow >1bd >1bd >1bj >1bj >1bj >1bj >1bn >1bn >1bn >1bn >1bl >1bl >1bl >1bl >1bu 2>1bu >1bv",
  "1dpe >1bv >1bv >1c0 2>1c0 >1c1 >1c1 >1c1 >1by >1by >1by >1by >1ci 2>1ci >1cj x,>1bh >1bh",
  "1dqt >1bh >1bh >1c7 >1c7 >1c6 >1c6 >1c8 >1c8 >1c7.19w >1cb >1cb >1c5 >1c5 >1c9 >1c9 >1cg",
  "1dr9 >1cg >1cg >1cg >18p >18p 2>17q.17r 2>17q.1cl 2>17q.18o 2>17q.1c7 2>17q.1c6 2>17q.1c8",
  "1drq 3>17q.1cg 3>17q.18p >1cc >1cc >1cc >1cc >17q.17w >17q.17x >17q.18l >17q.18p >17q.18q",
  "1ds5 >17s.17w >17s.17x >17s.17y >17s.18l >17s.18p >17s.18q >17u.17w >17u.17x >17u.17y",
  "1dse >17u.18l >17u.18p >17u.18q >17v.17w >17v.18l >17v.18p >17v.18q >17w.17x >17w.18l",
  "1dsn >17x.17w >17x.18l >17y.17w >17y.17x >17y.18l >183.17w >183.17x >183.17y >183.18l",
  "1dsw >185.17x >185.18l >186.17w >186.17x >186.17y >186.18l >187.17x >187.18l >188.18l",
  "1dt5 >189.17w >189.18l >18a.17w >18a.18l >18h.17w >18h.17x >18h.17y >18h.18l >18h.18p",
  "1dte >18h.18q >18i.17x >18i.18l >18i.18p >18i.18q >18j.17r >18j.17w >18j.17x >18j.17y",
  "1dtn >18j.18k >18j.18l >18j.18p >18j.18q >18k.17w >18k.17x >18k.17y >18k.18l >18k.18p",
  "1dtw >18k.18q >18l.17w >18l.17x >18l.17y >18l.18l >18l.18p >18l.18q >18m.17w >18m.17x",
  "1du5 >18m.17y >18m.18l >18m.18p >18m.18q >18n.17w >18n.18l >18n.18p >18n.18q >18q.17w",
  "1due >18q.17x >18q.17y >18q.18l >18q.18p >18q.18q >180.19s >181.19s >18p.19s >w.18s.18x",
  "1dun >w.18t.18x >w.18u.18x >w.18v.18x >w.18w.18x >w.18x.19s >17q.181 >17q.182 >17q.18l",
  "1duv >17q.18m >17q.18p >17q.18q >17s.181 >17s.182 >17s.18l >17s.18m >17s.18p >17s.18q",
  "1dv4 >17u.181 >17u.182 >17u.18l >17u.18m >17u.18p >17u.18q >17v.181 >17v.182 >17v.18l",
  "1dvd >17v.18m >17v.18p >17v.18q >18h.18p >18h.18q >18i.18p >18i.18q >18j.17r >18j.18k",
  "1dvm >18j.18l >18j.18p >18j.18q >18k.18l >18k.18p >18k.18q >18l.17r >18l.18l >18m.181",
  "1dvv >18m.182 >18m.18l >18m.18m >18m.18p >18m.18q >18p.19s >18q.181 >18q.182 >18q.18l",
  "1dw4 >18q.18m >18q.18p >18q.18q >17q.17w >17q.17x >17q.17y >17q.18l >17q.18n >17s.17w",
  "1dwd >17s.17x >17s.17y >17s.18l >17s.18n >17u.17w >17u.17x >17u.17y >17u.18l >17u.18n",
  "1dwm >17v.18l >17w.17x >17w.18l >17x.17w >17x.18l >17y.17w >17y.18l >183.17w >183.17x",
  "1dwv >183.17y >183.18l >185.17x >185.17y >185.18l >186.17w >186.17x >186.17y >186.18l",
  "1dx4 >187.17x >188.18l >189.17w >189.18l >18a.17w >18a.18l >18h.17w >18h.17x >18h.17y",
  "1dxd >18h.18l >18i.17x >18i.18l >18j.17w >18j.17x >18j.17y >18j.18k >18j.18l >18k.17w",
  "1dxm >18k.17x >18k.17y >18k.18l >18k.18n >18l.17w >18l.17x >18l.17y >18l.18l >18m.17w",
  "1dxv >18m.17x >18m.17y >18m.18l >18m.18n >18n.17w >18n.18l >18n.19s >18q.17w >18q.17x",
  "1dy4 >18q.17y >18q.18l >18q.18n >17q.18l >17q.18n >17s.18l >17s.18n >17u.18l >17u.18n",
  "1dyd >17v.18l >17v.18n >183.18l >183.18n >184.18l >184.18n >18j.18k >18j.18l >18k.18l",
  "1dym >18m.18l >18m.18n >18q.18l >18q.18n >18g.18u.18x >18g.18v.18x >18g.18w.18x >187.18p",
  "1dyu >187.18q >189.18p >189.18q >18a.18p >18a.18q >183.18p >183.18q >184.18p >184.18q",
  "1dz3 >17x.18p >17x.18q >17w.18p >17w.18q >17y.18p >17y.18q >185.18p >185.18q >186.18p",
  "1dzc >186.18q >184.17w >184.17x >184.17y >184.18l >184.181 >183.181 >185.181 >186.181",
  "1dzl >187.18p >187.18q >189.18p >189.18q >18a.18p >18a.18q >183.18p >183.18q >184.18p",
  "1dzu >184.18q >17x.18p >17x.18q >17w.18p >17w.18q >17y.18p >17y.18q >185.18p >185.18q",
  "1e03 >186.18p >186.18q >184.17w >184.17x >184.17y >184.18l >184.181 >183.181 >185.181",
  "1e0c >186.181 >184.17w >184.17x >184.17y >184.18l >183.18n >184.18n >187.18l >183.17w",
  "1e0l >183.17x >183.17y >184.17w >184.17x >184.17y >187.18l >188.18l 2>17r.18r",
  "1e1c >17u.17w.18l 2>17u.17x.17w >17u.17x.18l >17u.17y.18l >17u.18l.17w >17u.18l.17x",
  "1e1j >17u.18l.17y 2>17w.18l.17x >17x.18l.18q >17x.18l.18p >183.17x.17w >183.17w.17x",
  "1e1q >183.17w.18p 2>183.18l.17x >183.18l.17w 2>183.18l.18l 2>185.17x.17x >185.18l.18l",
  "1e1z 2>184.17x.18l >184.17w.18q 2>184.18l.17y 2>184.18l.18l >186.17x.18p 2>186.17y.18l",
  "1e29 2>187.18l.17x >187.18l.18l >187.18l.18q >189.17w.18l 2>189.18l.18l >189.18l.18p",
  "1e2h >18a.18l.18l >18a.18l.18q >18a.18l.18p 2>18h.17y.18l >18i.18l.17x >18i.18l.18l",
  "1e2o >18k.17x.18l >18k.17x.18q >18k.17x.18p 2>18k.17w.17w 2>18k.17y.18l 2>18k.18l.17x",
  "1e2x >18l.17x.17w >18l.17x.18l >18l.17x.18q >18l.17w.17x >18l.17w.18l >18l.17y.17w",
  "1e33 >18l.17y.18l 2,>18l.17w.17y >18n.18l.17w >18n.18l.18l >18m.17x.18l >18m.17x.18p",
  "1e3b 2>18m.17w.18l >18m.17w.18p >18m.18l.18q >18m.18l.18p 2>18q.18l.18l >17s.17y.18q",
  "1e3j >17u.17w.18q >17u.17w.18p >17u.17y.18q >17u.17y.18p >17u.18l.18q >17u.18l.18p",
  "1e3p >17w.18l.18q >17w.17x.18p >17w.18l.18p >183.17y.18p >185.17x.18q >184.17x.18q",
  "1e3v >186.17x.18q >18k.17w.18q >18k.18l.18q >18q.17x.18q >18q.17w.18q >18q.18l.18q",
  "1e41 >18l.18l.18q >18i.18l.18q >18m.17x.18q >18i.18l.17x >18k.17x.18l >189.18l.18q",
  "1e47 >18j.18l.18q >18m.17w.17x >18l.17y.18q >18k.17w.18l >18j.18l.18l >18k.17w.18l",
  "1e4d >18m.17w.17x >17w.17x.18q >17x.17w.18q >18l.17w.18q >18h.18l.18q >17s.17x.18q",
  "1e4j >18j.18l.18l >189.17w.18l >185.18l.18l >183.17y.18q >18m.17w.18q 8,w! >185.18k.1ci",
  "1e5t >18i.18k.1ci >17r.18k.18k.18n >17r.18j.17s.181 >18l.17x.18l.17z >185.18k.189.18l",
  "1e5y >181.183.18o.18k >189.18k.18q.18n >18o.183.18k.18l >185.18k.18p",
  "1e62 >185.18k.18p.w.17r.18k.18k.18n.w.189.18k.18q.18n.w.18o.183.18k.18l",
  "1e63 >17w.18k.w.17w.18k.17r.18k.18n >181.1cc.17r.18k 3,g> >18 >9hd ! 2>1m >x >1r 2>9hy 7!",
  "1e7k ! >6c4 >6c3 >2n >2n 2>14 >3f >3h 2>9hw 2>9hs 2>9hm 2>9hk 4>9ho 2,>2j >2l 4>w.lh >2n",
  "1e8e >2n >2n >18 >9hd 2! >1n >1m >1r >x >6c4 2>14 >3f >3h 2>9hw >z >12 2>16 >19 >1o >1q >1p",
  "1e93 ! >2k 2>10 >1s 4! >w.18r >18g.18r >w.18s 1,>w.18t ! >w.18u >18g.18u >w.18v >18g.18v",
  "1e9m >w.18w >18g.18w >w.18x >18g.18x >w.18y >18g.18y 2>17l 2>17m 2>17n 2>17o 2>17p >17q",
  "1ea3 >17q 2>17q 2>17r >17s >17s 2>17s 2>17t >17u >17u 2>17u >17v >17v 2>17v >17w >17w 2>17w",
  "1eaq >17x >17x 2>17x >17y >17y 2>17y 2>17z 2>180 2>181 2>182 >183 >183 2>183 >184 >184",
  "1ebc 2>184 >185 >185 2>185 >186 >186 2>186 >187 >187 2>187 >188 >188 2>188 >189 >189 2>189",
  "1eby >18a >18a >18a >18h >18h >18h 2>18h >18i >18i 2>18i >18j >18j 2>18j >18k >18k 2>18k",
  "1eci >18l >18l 2>18l >18m >18m 2>18m >18n >18n 2>18n 2>18o 2>18p >18q >18q >18q 2>18k.17m",
  "1ed3 2>18k.17n 2>18k.17p 2>18k.17r 2! > ! w>x q>2p 10>2j 2>879 >1a 2>9ho >9hd >9ob >9o2",
  "1eg7 >9lt >9lv >9lx >9lz >9m1 >9nn >9np >9nr >9mr >9oc >9lu >9lw >9ly >9m0 2>9m2 >9m5 >9m7",
  "1egp >9m9 >9mb >9md >9mf >9mh >9mj >9ml >9mn >9mp >9ms >9mu >9mw 6>9my >9n6 >9n9 >9nc >9nf",
  "1ehb 5>9ni >9no >9nq 6>9ns >9nz >9o3 2>9ll > 2>3cw >3hm >3cy 2>3ho 3>3cz 6>3hs >3dm 3>3d2",
  "1eic >3dt a>3d5 3! 6>3fl 2! 6>3fr 2! 6>3fx 2! 3>3g3 3! 2>4i >4s >w.lg >4m >4l >6g9 ! >7b6",
  "1ejt 4>6mo >7fk >7gr h! c,! q,! j,! 2,! f,2! e,y! 3f,5! 3,4! 19,3! 2g,! d,3! 1,1b! 1a,3m!",
  "1f31 3! 1d,f! s,4! 10,9! u,5! 17,5! u,! 11,4! e,16! 14>1fe0 3a,2! a,6! 10>1fiw 4! 10,4!",
  "1fl4 8! 1g,b! 1,b>1fo7 ! f>1foj ! 7>1foz ! 2>1fp7 ! b,! f,! 7,! 2,3! 1g,c! 8n,9! m,a! 8,o!",
  "1g1t 2>k0 >6e >ih >gj ! >ir >xuu >it >is 2>gm >5u9 >go >gu >ix >h0 >gy >gw >ij >87 >ik >h3",
  "1g2g >hw 2>iy >h8 >2mmc >x3i >ha >2mmd >i6 >2mme >6w 2>hi >35 >hm >2mmg 2>hp >hs >iw >iu",
  "1g31 >xuv >iv >i0 >8s1 ! >i7 2>ip >ig 3>cg >2mmi >2mn2 1x! 6,2! 1,! 18,! 2,3! 1,2! n,!",
  "1g9r 8! 9,1c! j,! 2,5! x,3! r,5! r,12! 1k,4! k,2! 1e,! 2,5! 8,! 3,! t,2! 3,4! a,7! 9,7!",
  "1go0 w! 13,4! c,9! 1i,3! t,2! r,5! q,7! 4,c! 7,28! 21,1j! 1f>1h34 d! 1f,7! 1a,8! a,6!",
  "1h74 m>1h80 3! t,8! 2,5s! v,! 16,! 3,2! 2,g! 8,6! v,b! 1a,8! 16,m! q,12! s,k! n,9! 26,4!",
  "1hti 9! 1q,! 5,d! p,7! a,6! 1h,! i,8! 13,9! 2o,! k,b! i,! 1b,1q! 7,! 1,! 4,! f,! b,6! 1n,5!",
  "1ibe 6! 4,! 8,2! 2,2! m,! 7,! 2,! 5,! a,2! 2,2! 3,2! 1,6! 1,5! 7,2! 7,3! 5,b! a,! 1,2! 1,!",
  "1igm ! a,! 1,2! 1,! 4,! a,! 2,8! 2,t! 2k,! 5,u! 20,8! a,4m! 1i,2! 12,y! 1x,b! a,6! d,j!",
  "1j22 6! a,6! k,s! r,2! f,4! n,55! 1o,2s! w>1jgg 1f,c! 8,2! 1,2! 8,! 2,! u,! 2,2! c,9! a,1y!",
  "1jmw 2! 1a,2! b,r! 20,8! 2b,d! 21,7! b,2d! 8,2g! y,e! a,6! 9,! 19,! e,a! t,3! w,2! m,!",
  "1k8n 21! 7,! 2,! 18,3! 1,! 2,! 9,8! a,6! 6,! 2,! 11,! 2,! 6,7! a,6! 18,4! a,6u! p,7! h,!",
  "1kqj 3! t,2d! 1,f! 1e,d! pn,2u! 33,! 5,b! 5g,c! 8w,1s0! 2r,d! ts,g! m,a! 32z,5! g7,5a1!",
  "1xru 1c6! ft,7! v,! a,4! 29,! a,6! u,2! 6,a! 1y,a! a,! 7,! l,5! j,c0! 1m,6! 16,46! w>20dc",
  "20ez 5! p>20fv 2! p,18! 23,4! 1l,7! h,1s! 5,b! 7,9! 5p2,15! w,2p! 37,d! r7,5y5! 4,! 7,! 2,!",
  "2dk3 f! 1,t! 3,2! 1,e! 4,8! b0,1s4! 2z,5! d,3! 9,7! a,2! 4,4> 318! 5y,q>2p a>1c 3,3! c4,6!",
  "2jf7 d! h,f! 1a,2! n,9! 38,1o! 6u,a! 13,2! 1h,>2jx3.2jxh >2jx4.2jxh >2jx4.2jxh.2jxq",
  "2jxd >2jx4.2jxh.2jxr >2jx4.2jxh.2jxs >2jx4.2jxh.2jxt >2jx4.2jxh.2jxu e,8> 1s,>2jzt.2jxh",
  "2jzw >2jzu.2jxh >2jzt.2jxh.2jxq >2jzu.2jxh.2jxq >2jzt.2jxh.2jxr >2jzu.2jxh.2jxr 16,l!",
  "2k3q 3e! k,c! k,c! 2f,9! p,3r! q>2p q>2p q>2p 7>2p ! i>2x q>2p q>2p >2p ! 2>2r 2! >2v 2!",
  "2kkl 2>2y 2! 4>32 ! 8>37 4>2p ! >2u ! 7>2w ! b>34 q>2p q>2p 2>2p ! 4>2s 2! 8>2y ! 7>37 !",
  "2kny q>2p 2>2p ! 4>2s ! 5>2x ! >33 3! 7>37 ! q>2p q>2p q>2p q>2p q>2p q>2p q>2p q>2p q>2p",
  "2kvw q>2p q>2p q>2p q>2p >8h >fr >37.37 ! h>q9 >qg 7>qr >6pz h>q9 >qr 7>qr >6pu >qd >qg >qi",
  "2l0f >qu >qp >qo h>q9 >qg 7>qr >6pz h>q9 >qr 7>qr >6pu >qd >qg >qi >qu >qp >qo h>q9 >qg",
  "2l2m 7>qr >6pz h>q9 >qr 7>qr >6pu >qd >qg >qi >qu >qp >qo h>q9 >qg 7>qr >6pz h>q9 >qr 7>qr",
  "2l55 >6pu >qd >qg >qi >qu >qp >qo h>q9 >qg 7>qr >6pz h>q9 >qr 7>qr >6pu >qd >qg >qi >qu >qp",
  "2l6x >qo >rh >rh 2! a>1c a>1c a>1c a>1c a>1c i4,f! 5,! f,uo! v,6! 6,5x! 7,! h,2! 7,! 2,!",
  "2muj 5! 9>ts 3>u2 b>u6 >uj 2>ul >ww9 >yh >uu >uw >yx >xb >y7 9>ts 2>u2 2>u6 >u9 6>ub 2>ui",
  "2mw7 >wh >uu >ut >v3 >x7 >wup >xd x! 1,34! 19,3! e,2! a,4! 2,8w! v,h! 1m,5! 1,cw! 16,5y!",
  "2nzv 4! 1,5c! v,! m,8! 2,68! 7,! 4,! 2,! f,! 5h,2! g,15! y>2oma 16,4! a,4! 2,lt! 1w,24!",
  "2pfi 5e! 2>17r >17w >17z ! >18o >182 >17x >187 >18q 4>18j >183 >189 >18h >185 >18i >181",
  "2plg >184 2>17u >17y >180 >186 >188 >18a >19q >1bu >1b5 >19r ! >17s >17w ! >18n 2! >17x !",
  "2pm1 >18q 4>18j >183 >189 >18h >185 >18i ! >184 2>17u >17y ! >186 ! >18a 6! >17w 4! >17x !",
  "2pmx >18q ! >18k ! >18m >183 >189 ! >185 >18i ! >184 2! >17y ! >186 ! >18a ! >1bu ! >19r !",
  "2pnl >17s >17w ! >18n 2! >17x >187 >18q >18j ! 2>18l >183 >189 >18h >185 >18i ! >184 2>17u",
  "2po7 >17y ! >186 >188 >18a >19q ! >1b5 ! 2>17r >17w >17z 2>18n >182 >17x >187 >18q ! 3>18k",
  "2pou >183 >189 >18h >185 >18i >181 >184 2>17u >17y >180 >186 >188 >18a 5! >17s >17w >17z !",
  "2pph >18o >182 >17x >187 >18q ! 3>18k >183 >189 >18h >185 >18i >181 >184 2>17u >17y >180",
  "2pq1 >186 >188 >18a 1g! 2,7i! 18,4! 2s,c! f,2! f,! f,! 11,b! >1c.18 >1d.18 >1e.18 >1f.18",
  "2q6d >1g.18 >1h.18 >1i.18 >1j.18 >1k.18 >1l.18 5,>14.2p.15 >14.2q.15 >14.2r.15 >14.2s.15",
  "2q6s >14.2t.15 >14.2u.15 >14.2v.15 >14.2w.15 >14.2x.15 >14.2y.15 >14.2z.15 >14.30.15",
  "2q70 >14.31.15 >14.32.15 >14.33.15 >14.34.15 >14.35.15 >14.36.15 >14.37.15 >14.38.15",
  "2q78 >14.39.15 >14.3a.15 >14.3b.15 >14.3c.15 >14.3d.15 >14.3e.15 >9hw.37.9hx >2r >36 >2r.2s",
  "2q7i >3b.3e 1,q>2p >2w.3a >31.3a >37.2s >37.37 >34.34.3a >3b.2r q,>31.2r >31.2s >31.36",
  "2qa8 >2s.2y u,1j! q,>9kr.9jf >9mb.9mb >9md d! >jez >i1j >gjw >9mv >fik >hlm >r8j >hm1 >fj8",
  "2qe1 >k68 >mch >k2h >g99 >ivg >g3x >k34 >g7x >oqq >n4v >rs9 >hkg >gmx >lxw >jh1 >jmd >feo",
  "2qei >fex >si2 >ijq >ffx >gkz >jk7 >rxs >jf7 >o01 >o6y >glk >lts >kcp >kco >n5f >gaa >gxi",
  "2qez >sp9 4! >9hw.kdo.9hx >9hw.fex.9hx >9hw.fik.9hx >9hw.i2x.9hx >9hw.m9l.9hx >9hw.jf7.9hx",
  "2qfa >9hw.nh3.9hx >9hw.gd9.9hx >9hw.k0n.9hx 7! >ivr >gkv e! 6,4a! re,2! h,3! d,3! 62,6!",
  "2rjg 4! 1,e! d,4! 1k,8! a,6! 14,8! u,2! c,4! 2,e! 9,13! 9k,8! e,2! d,3! d,! 1l,! 1,4! h,!",
  "2s4s 3! c,5! 43,! 2k,a>1c 1,sl! wyo,w! 3dr,! 4ge,2! 5rl,f! ha,1wi! >fgd >fg8 >fgh >2tcy",
  "464k >fog >fqm >fqz >fsy >fwa >fx5 >fzb >fyn >ae6 >2ud6 >g25 >g2c >g2s >g3b >2u58 >aex >g2v",
  "4651 >g3x >2u6j >g47 >g4k >fkc >g4s >g51 >3ly7 >g6t >g77 >afz >g8r >g92 >gaa >gaf >ahh >gcn",
  "465i >gcp >gdg >ge2 2>ged >gev >gg9 >ggh >ggq >ghf >ghp >ghr >ghr >ghr >2v58 >m7k >gju >gkf",
  "4660 >2vdv >gkr >gkx >gli >gpq >gmw >gnc >go8 >gpu >gs6 >gsw >gur >gv7 >gw4 >gw4 >gwp >gx7",
  "466h >gxf >gxu >h7a >gzq >h7b >h1t >h2s >g7b >hke >hce >hdg >he5 >haj >hf6 >hf5 >hik >2x9g",
  "466y >hki >hkn >hl2 >hlm >hlu >hnm >2xm0 >2xnu >hrg >hsr >ht3 >hqw >huu >aum >av0 >hzc >i0u",
  "467f >i0u >2y88 >i4j >i54 >i5j >i5v >2yhk >i67 >i6e >itv >i76 >ayp >i8w >i9a >ibk >ia5",
  "467v >2z1g >if7 >2z1i >ige >igb >igs 2>ijl >b3j >ikd >ilk >im5 >ind >b4y >2zr7 >b5o >ipc",
  "468c >ipf >ipi >iq2 >3pg2 >iri >3035 >3035 >poh >isi >isi >b7r >335k >3cgq >iua >iuj >b8j",
  "468s >ivu >ix9 >ixj >iyh >j29 >bay >ba4 >j2s >30t0 >j47 >j7s >j7w >j7y >j7w >j96 >j9q >jaq",
  "4699 >jac >jan >jby >jci >jcm >jdc >jdn >jfh >jht >jis >jm8 >31n0 >jlp >jjw >jmw >jnn >jqc",
  "469q >31td >js2 >jph >jop >bhq >ju1 >jum >jvh >juf >bjg >k0f >k18 >32mi >k4j >kc8 >k7d >bo9",
  "46a7 >k9d >bns >bms >g42 >g45 >kcg >k9o >pf1 >deh >kd3 >kd7 >kdd >kf2 >ker >33cz >bpl >kje",
  "46ao >kg5 >klu >kn9 >33hp >kni >kkf >kr8 >brx >ksi >kv7 >kx6 >l2g >33xf >l3v >bvc >l5t",
  "46b4 >34br >l78 >bwu >l82 >l9b 2>la2 >34p9 >2yvf >34sa >le6 >354s >lhb >lhp >lev >ljq >lku",
  "46bl >lmf >lkx >lm1 >lmg >lmt >357i >lkk >lrj >lta >c37 >lvv >lvr >35jl >lq1 >m0e >35ni",
  "46c1 >35ou >m2u >m61 >m5a >m57 >c5y >m6i >m7x >m7r >m99 >2u5h >mdh >368z >mfw >36i3 >mjs",
  "46ch >mk5 >mkw >36yw >mm8 >mmt >3779 >37dg >mt6 >mtn >cdo >mud >ce0 >ce0 >myv >mzg >n01",
  "46cx >n0l >n2i >cgr >n50 >386u >n5q >389e >n74 >2zrz >nbk >38v5 >38vs >38zo >cn0 >cnc >nhw",
  "46dd >394j >394i >395l >396b 2>nj2 >nj3 >nka >cop >nm3 >cp2 >cra >39r1 >nri >nt8 >nv0 >ctf",
  "46du >3a5i >nyu >3a8q >3a9x >o0f >o2z >cvj >o5c >o5m >o5r >3at8 >3b1j >3b1j >oa6 >d1e >3b8r",
  "46ea >og6 >og9 >d2f >3beo >onm >d5s >oo8 >oo3 >oow >3c06 >orn >d8h >ouf >ow2 >oxx >d9w",
  "46eq >3ciw >3cjr >dax >3cnt >p6i >3cqm >p79 >pa2 >pad >3d22 >3d43 >pcw >3d7s >pdc >33a7",
  "46f5 >ded >pf6 >phf >dfv >pj2 >hx1 >3dlz >3dmd >33bn >33bw >poh >pok >sda >dij >psh >psb",
  "46fl >pst >gc3 >ptd >ptf >ptp >puu >3ebg >put >pwd >pyb >q0d >pwj >q0t >q1z >q53 >pxv >q16",
  "46g2 >q18 >q1o >3eie >3eqz >3emt >dnv >q9d >q9f >qae >3g0a >qck >3f3g >dp9 >dpd >3f75 >3ff6",
  "46gi >dpn >qj4 >qjg >qjr >qjt >qll >qko >qoe >qn6 >qrd >qp4 >qqz >qrq >dsn >qu9 >qv5 >dtl",
  "46gz >qxs >qxv >3giv >r13 >r1a >dv9 >r22 >aez >3gz2 >3h46 >dz2 >dzb >rds >rfx >rka >rpx",
  "46hf >3hrc >rsb >rsx >rvf >rxz >3i9b >2upw >s0b >rzw >s1c >2uvy >s7o >sag >3jki >3jl9 >sk4",
  "46hv >smp >snl >3ju6 >snv >svs 2>t07 >sxo >t89 >t91 >3ksa >tjf >ej9 >tkn >3l2v >eli >ts3",
  "46ic >iia >tur >3ltx >3lzu >epa >epi >u00 >3mdm >er6 >3mhi >u17 >u17 >u21 >3mpi >u76 >eur",
  "46is >u95 >ucn >ude >uf2 >ez2 >3nsg >umq >uv4 >v0d >f66 >f71 >v3b >3owe >f7c >3oxx >3p5a",
  "46j8 >3p8x >vcr >f9y >veh >vem >vet >vf3 >vfa >vgb >3pxc 15u! 3t7,5! 6ju,upy! 8qo,e2m8! 6o>",
  "joc0 47bk!"]

def runs : List Run :=
  rows.flatMap readRow

def Run.apply? (r : Run) (c : Char) : Option (List Char) :=
  match r.outcome with
  | .refused => none
  | .shifted _ target => some [Char.ofNat (target + (c.toNat - r.first))]
  | .spelled points => some (points.map Char.ofNat)

def spelling? (table : List Run) (c : Char) : Option (List Char) :=
  match table.find? fun r => r.has c with
  | some r => r.apply? c
  | none => some [c]

end CodeReview.Domain.Mapping
