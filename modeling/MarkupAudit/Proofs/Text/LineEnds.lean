import MarkupAudit.Text.Stream

/-! Texts that end their lines in one way. Reading unifies the line ends, so that the text is the same
however they were written. -/
namespace MarkupAudit.Text

/-- How the lines of a file can end. -/
inductive LineEnd where
  | newline
  | returnNewline
  | carriageReturn
  deriving DecidableEq, Repr

def LineEnd.chars : LineEnd → List Char
  | newline => ['\n']
  | returnNewline => ['\r', '\n']
  | carriageReturn => ['\r']

def LineEnd.write (ending : LineEnd) (cs : List Char) : List Char :=
  cs.flatMap fun c => if c = '\n' then ending.chars else [c]

def LineEnd.writeText (ending : LineEnd) (s : String) : String :=
  String.ofList (ending.write s.toList)

theorem LineEnd.write_cons (ending : LineEnd) (c : Char) (cs : List Char) :
    ending.write (c :: cs) = (if c = '\n' then ending.chars else [c]) ++ ending.write cs :=
  List.flatMap_cons

theorem unifyNewlines_cons_of_ne {c : Char} (h : c ≠ '\r') (cs : List Char) :
    unifyNewlines (c :: cs) = c :: unifyNewlines cs := by
  rw [unifyNewlines.eq_3 c cs fun _ hc _ => h hc, if_neg h]

theorem unifyNewlines_return_cons {cs : List Char} (h : cs.head? ≠ some '\n') :
    unifyNewlines ('\r' :: cs) = '\n' :: unifyNewlines cs := by
  have hhead : ∀ rest, cs ≠ '\n' :: rest := by
    rintro rest rfl
    exact h rfl
  rw [unifyNewlines.eq_3 '\r' cs fun rest _ => hhead rest, if_pos rfl]

/-- Where carriage returns end the lines, no newline is left to be taken together with one. -/
theorem head?_write_carriageReturn (cs : List Char) :
    (LineEnd.carriageReturn.write cs).head? ≠ some '\n' := by
  cases cs with
  | nil => simp [LineEnd.write]
  | cons c cs =>
    rw [LineEnd.write_cons]
    split
    · simp [LineEnd.chars]
    · simpa using ‹¬c = '\n'›

theorem unifyNewlines_write (ending : LineEnd) {cs : List Char} (h : '\r' ∉ cs) :
    unifyNewlines (ending.write cs) = cs := by
  induction cs with
  | nil => rfl
  | cons c cs ih =>
    rw [List.mem_cons, not_or] at h
    rw [LineEnd.write_cons]
    split
    · subst c
      cases ending with
      | newline =>
        rw [LineEnd.chars, List.singleton_append, unifyNewlines_cons_of_ne (by decide), ih h.2]
      | returnNewline =>
        rw [LineEnd.chars, List.cons_append, List.singleton_append, unifyNewlines.eq_2, ih h.2]
      | carriageReturn =>
        rw [LineEnd.chars, List.singleton_append,
          unifyNewlines_return_cons (head?_write_carriageReturn cs), ih h.2]
    · rw [List.singleton_append, unifyNewlines_cons_of_ne (Ne.symm h.1), ih h.2]

end MarkupAudit.Text
