import CodeReview.Domain.Rows
set_option autoImplicit false

/-!
The direction that labels are written in. A name with a character from right to left in it must
be read in one way only: each of its labels keeps to one direction, starts with a letter of that
direction and ends with such a letter or a digit, and none has digits of two kinds from right to
left. Spans may run over characters that no name has.
-/
namespace CodeReview.Domain.Direction

inductive Kind where
  | left
  | right
  | arabicDigit
  | digit
  | neutral
  | mark
  deriving DecidableEq, Repr

/-- Letters from right to left. -/
def rightRows : List String := [
  "14u 14w 14z 152 15c+10 16w 16z 171 17f+1b 19p+2 19t+2s 1d1+1 1da+1 1dm+m 1ea+t 1fx+2g",
  "1ip+1l 1kk+1 1kq 1ku+n 1lm 1lw 1m0 1m8+14 1ni+1d 1pc+15 1dpu+g 1e9f 1g5c+7v 1gdc+68 1gk0+11",
  "1glc+4k 1gq3+22 1gsg+df 1h6o+f 1h7z+w 1hfk+15 1hgt+s 1hj4+1x 1hld+1c 1hmu+34 2oe8+5r 2oma+x",
  "2onf+s2"]

def arabicDigitRows : List String := [
  "19c+9 19n+1 1h68+9 1heo+u"]

def digitRows : List String := [
  "1c+9 1dc+9 1f4x+q"]

/-- Characters that go along with those around them. -/
def neutralRows : List String := [
  "0+1b 1m+12 3f+2k 6v jd+1 jm+d k2+r kv+g ol s6 13e+5 16u+1 16x+1 170 172+1 19m 1cu 1d5 1km+3",
  "1yq+1 1yz 25t 2cz+7 2go+6 2tb 30a+3 3v4+9 3y8 4gr+1 4pn 4q8+q 4zk+5 53y+x 6bw+54 6is+21",
  "6mi+bv 70b+p 712+lx 7n1+9e 83k+lb 8v9+5 8vt+6 934+ec 9hk+o 9io 9iv 9j1+2 9ls 9ob 9ts+11",
  "fcw+1r wi8+1i wst+2 wvn wvy+1 wzk+x x3c x7s+3 x88+1 x9w+3 xuy+1 1dqb+fw 1e85+1 1erl 1etc+24",
  "1evk+g 1gdb 1gs9+6 1h7y 1hhs+u 1hsi+j 1izk+c 1kut+s 20o2 2iv4+kw 2k15+2g 2k3p 2k8w+2e 2nen",
  "2prk+fz 2q99+2 2qb1+1 2qg0+1wa"]

/-- Marks that take no room of their own. -/
def markRows : List String := [
  "lc+33 w3+6 13l+18 14v 14x+1 150+1 153+1 174+a 18r+k 19s 1cm+6 1cv+5 1d3+1 1d6+3 1e9 1f4+q",
  "1ie+a 1kb+8 1kt 1li+3 1ln+8 1lx+2 1m1+4 1nd+2 1p3+8 1qi+1k 1tm 1to 1tt+7 1u5 1u9+6 1uq+1",
  "1vl 1x8 1xd+3 1xp 1ya+1 1z2+4 20s 20x+g 228+1 22d 22p+1 24c 24h+7 24t 25e+1 262+7 27w 27z",
  "281+3 28d+9 28y+1 29u 2bk 2bx 2dc 2dg 2f0 2f2+2 2fa+g 2g2+1 2gx 2ik 2j0+1 2jm+1 2kg+1 2m3+1",
  "2m9+3 2ml 2n6+1 2o1 2q2 2qa+4 2sx 2t0+6 2tj+7 2wh 2wk+8 2x4+6 2zc+1 305 307 309 31t+d 328+4",
  "32e+1 32l+1b 346 371+3 376+5 37d+1 37h+1 388+1 38e+2 38x+3 39e 39h+1 39p 3a5 3tp+2 4k2+2",
  "4ky+1 4lu+1 4mq+1 4on+6 4p2 4p5+a 4pp 4ud+1 4vd 4yo+2 4yv+1 4z6 4zd+2 55j+1 55n 57a 57c+8",
  "57m 57p+7 583+c 59s+2b 5dg 5di+4 5do 5du 5ez+8 5fk+1 5gi+3 5go+1 5gr+2 5ie 5ig+1 5il 5in+2",
  "5kc+7 5km+1 5ow+2 5p0+c 5pe+6 5pp 5pw 5q0+1 5vk+1r 6hc+w 8vj+2 8zj 928+v 9ii+3 9ll+1 wvj+3",
  "wvo+9 wwu+1 wz4+1 x6q x6u x6z x7p+1 x7w xc4+1 xcw+h xdr xeu+7 xfr+a xhc+2 xir xiu+3 xj0+1",
  "xk5 xm1+5 xm9+1 xmd+1 xmr xn0 xoc xps xpu+2 xpz+1 xq6+1 xq9 xrg+1 xrq xyd xyg xyl 1dlq",
  "1e74+f 1eyl 1f4w 1f92+4 1gjl+e 1gl4+7 1gpx+1 1h5w+3 1h7t+4 1hgr+1 1hiy+5 1hl2+a 1hmq+3 1hq9",
  "1hrs+e 1htc 1htf+1 1htr+2 1hv7+3 1hvd+1 1hvm 1hxc+2 1hyf+4 1hyl+7 1i0j 1i0w+1 1i2e+8 1i2x+3",
  "1i33 1i5r+2 1i5w 1i5y+1 1i66 1i69 1ian 1iar+7 1ibk+1 1id7+1 1idc 1iee+e 1igr+5 1iha 1ihc",
  "1ihe 1iht+1 1ik8+7 1iki+2 1ikm 1ila 1inn+5 1inu 1inz+1 1io2+1 1iuq+3 1iv0+1 1iv3+1 1ivw+1",
  "1iyb+7 1iyl 1iyn+1 1j1n 1j1p 1j1s+5 1j1z 1j4t 1j4v 1j4y+3 1j53+4 1jcf+8 1jcp+1 1jjv+1 1jjy",
  "1jk3 1jo4+7 1jog 1jpd+5 1jpl+1 1jqr+5 1jqz+3 1jrb 1jrl+5 1jrt+2 1jt6+c 1jtk+1 1jz4 1jz6+2",
  "1jza 1k4w+d 1k7m+l 1k8a+6 1k8i+1 1k8l+1 1kc1+k 1kcn 1keo+1 1ket 1kev 1koj+1 1kow+1 1kqe+4",
  "1kqo 1kqq 1kre 1ow0 1ow7+e 1xr2+b 1xrh+2 1zow+4 1zqo+6 20jz 20lr+3 20o4 2ftp+1 2jgg+1y",
  "2jxj+2 2jy3+7 2jyd+6 2jze+3 2k3m+2 2lmo+1i 2lob+1d 2lpx 2lqc 2lqz+k 2mtc+3z 2n1s+6 2nce",
  "2ne4+3 2nsc+3 2nzi+1 2o6b 2o6e 2o6m+1 2o6t 2ok0+6 2on8+6"]

structure Table where
  right : List Rows.Span
  arabicDigit : List Rows.Span
  digit : List Rows.Span
  neutral : List Rows.Span
  mark : List Rows.Span

def table : Table :=
  ⟨Rows.spans rightRows, Rows.spans arabicDigitRows, Rows.spans digitRows, Rows.spans neutralRows,
    Rows.spans markRows⟩

/-- A character that is in no row is one from left to right. -/
def Table.kindOf (t : Table) (c : Char) : Kind :=
  if Rows.within t.mark c then .mark
  else if Rows.within t.right c then .right
  else if Rows.within t.arabicDigit c then .arabicDigit
  else if Rows.within t.digit c then .digit
  else if Rows.within t.neutral c then .neutral
  else .left

def Kind.isFromRight (k : Kind) : Bool :=
  k = .right || k = .arabicDigit

def trimmed (kinds : List Kind) : List Kind :=
  (kinds.reverse.dropWhile (· = .mark)).reverse

/-- Whether a label of these kinds keeps to one direction. -/
def isStraight (kinds : List Kind) : Bool :=
  match kinds with
  | [] => true
  | .left :: rest =>
    let rest := trimmed rest
    rest.all (!Kind.isFromRight ·) && rest.getLast?.all fun k => k = .left || k = .digit
  | .right :: rest =>
    let rest := trimmed rest
    rest.all (· ≠ .left) && (rest.getLast?.all fun k => k.isFromRight || k = .digit)
      && !(rest.contains .digit && rest.contains .arabicDigit)
  | _ :: _ => false

def agree (labels : List (List Char)) : Bool :=
  let kinds := labels.map fun l => l.map table.kindOf
  !(kinds.any fun l => l.any Kind.isFromRight) || kinds.all isStraight

end CodeReview.Domain.Direction
