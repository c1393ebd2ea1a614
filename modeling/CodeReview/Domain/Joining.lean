import CodeReview.Domain.Direction
import CodeReview.Domain.Marks
set_option autoImplicit false

/-!
Letters that are written joined to their neighbours, and the two characters without a shape that
rule whether they are. Marks between two letters do not keep them from joining.
-/
namespace CodeReview.Domain.Joining

/-- Letters that join on both sides. -/
def bothRows : List String := [
  "17k 17q 17s 17u+4 183+c 18h+6 18p+1 19q+1 1a1+e 1ay+11 1c1+1 1cc 1ce 1cg+1 1dm+2 1dr 1ea+2",
  "1ei+3 1en+8 1ex 1ez 1f1+1 1fy+a 1gc+e 1gt+3 1gy 1h1+2 1h6+5 1je+w 1mp+4 1mw 1my+9 1n9 1nk",
  "1nm+3 1ns 1om 1op+4 1ov 1pc+9 1pr+1 1pv+5 1q2+e 4qv 4rk+2g 4uf+x 4ve x8g+1d 1gow+4 1gpf+3",
  "1gpk+4 1gpq+2 1gq3+3 1gu8 1gua 1gue+2 1gui+1 1gul 1guo 1gvh+1 1h4x+w 1h5v 1hhf+1 1hhi+1",
  "1hkg+2 1hkk+g 1hld+2 1hm8+3 1hme+b 1ho0 1ho2+1 1ho8 1hob+1 1hoe+1 1hoh 1hok 1hoq 2oma+x"]

/-- Letters that join only to the one before them. -/
def beforeRows : List String := [
  "17m+3 17r 17t 17z+3 18o 19t+2 1ag+h 1c0 1c3+8 1cd 1cf 1ci+1 1cl 1da+1 1e8 1ed+4 1em 1ew 1ey",
  "1f0 1f3 1fx 1g9+2 1gr+1 1gx 1gz+1 1h4+1 1mo 1mu+1 1mx 1n8 1na+2 1nr 1nt+p 1ou 1pm+2 1pq",
  "1pt+1 1q1 1gp1 1gp3 1gp5+1 1gpa+4 1gpp 1gpt 1gpw 1gq7 1gu9 1gub+2 1guh 1guk 1gum+1 1gup",
  "1gvd+3 1h5u 1hhe 1hkj 1hlg 1hmc+1 1ho4+2 1ho9+1 1hod 1hoi+1 1hop"]

/-- Letters that join only to the one after them. -/
def afterRows : List String := [
  "x9u 1gp9 1gpj 1h4w 1hor"]

/-- Further marks that letters join across, beside those that take no room of their own. -/
def acrossRows : List String := [
  "2in 2iu 1jpj+1 1k5b 2onf"]

def isSeparator (c : Char) : Bool :=
  c = '\u200c'

def isJoiner (c : Char) : Bool :=
  c = '\u200d'

structure Table where
  toBefore : List Rows.Span
  toAfter : List Rows.Span
  across : List Rows.Span

def table : Table :=
  let both := Rows.spans bothRows
  ⟨both ++ Rows.spans beforeRows, both ++ Rows.spans afterRows,
    Direction.table.mark ++ Rows.spans acrossRows⟩

/-- Whether the next letter joins in the given way. -/
def Table.reaches (t : Table) (ways : List Rows.Span) (cs : List Char) : Bool :=
  (cs.find? fun c => Rows.within ways c || !Rows.within t.across c).any (Rows.within ways)

/-- Whether the characters without a shape stand where they have an effect: right after a mark of
class nine, which joins consonants, or, if they separate, between two letters that would join. The
characters before stand in reverse order. -/
def Table.arePlaced (t : Table) (marks : Marks.Table) : List Char → List Char → Bool
  | _, [] => true
  | before, c :: after =>
    (!(isSeparator c || isJoiner c) || before.head?.any (fun d => marks.classOf d = 9)
        || (isSeparator c && t.reaches t.toAfter before && t.reaches t.toBefore after))
      && t.arePlaced marks (c :: before) after

end CodeReview.Domain.Joining
