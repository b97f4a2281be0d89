/-! How alike two texts are: the characters that they share in runs, counted from the longest run
outwards, against the characters they have. -/
namespace MarkupAudit.Text

def commonLength : List Char → List Char → Nat
  | a :: as, b :: bs => if a = b then commonLength as bs + 1 else 0
  | _, _ => 0

structure SharedRun where
  left : Nat := 0
  right : Nat := 0
  length : Nat := 0

def longestRun (as bs : List Char) : SharedRun :=
  (List.range as.length).foldl (fun best i =>
    (List.range bs.length).foldl (fun best j =>
      let n := commonLength (as.drop i) (bs.drop j)
      if best.length < n then ⟨i, j, n⟩ else best) best) {}

/-- The characters shared in runs: those of the longest, and of those on both sides of it. -/
def sharedCount : Nat → List Char → List Char → Nat
  | 0, _, _ => 0
  | fuel + 1, as, bs =>
    let run := longestRun as bs
    if run.length = 0 then 0
    else
      sharedCount fuel (as.take run.left) (bs.take run.right) + run.length +
        sharedCount fuel (as.drop (run.left + run.length)) (bs.drop (run.right + run.length))

def similarity (s t : String) : Nat × Nat :=
  let as := s.toList
  let bs := t.toList
  (2 * sharedCount as.length as bs, as.length + bs.length)

def areSimilar (s t : String) : Bool :=
  let (shared, all) := similarity s t
  6 * all ≤ 10 * shared

end MarkupAudit.Text
