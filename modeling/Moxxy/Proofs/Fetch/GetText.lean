import Mathlib.Data.List.DropRight
import Mathlib.Data.List.Infix
import Moxxy.Fetch.HtmlToText

/-! What `get_text` returns, whatever was fed: no three newlines in a row, and nothing to strip. -/

namespace Moxxy

/-- Text with no three newlines in a row. -/
def NoBlankRun (cs : List Char) : Prop := ¬ ['\n', '\n', '\n'] <:+: cs

/-- A run of three starts at the first character or lies in the rest. -/
theorem noBlankRun_cons {c : Char} {cs : List Char} :
    NoBlankRun (c :: cs) ↔ ¬ ['\n', '\n', '\n'] <+: c :: cs ∧ NoBlankRun cs := by
  simp only [NoBlankRun, List.infix_cons_iff, not_or]

/-- Fewer than three characters hold no run of three. -/
theorem noBlankRun_of_length_lt {cs : List Char} (short : cs.length < 3) : NoBlankRun cs :=
  fun inside => by
    have fits := inside.length_le
    simp only [List.length_cons, List.length_nil] at fits
    omega

/-- At most two newlines before another character start no run of three. -/
theorem noBlankRun_newlines_cons {run : Nat} (atMostTwo : run ≤ 2) {c : Char} (other : c ≠ '\n')
    {cs : List Char} (rest : NoBlankRun cs) : NoBlankRun (List.replicate run '\n' ++ c :: cs) := by
  -- Each run through the first newlines meets `c` within three characters.
  have here : NoBlankRun (c :: cs) :=
    noBlankRun_cons.2 ⟨by simp [List.cons_prefix_cons, Ne.symm other], rest⟩
  rcases (by omega : run = 0 ∨ run = 1 ∨ run = 2) with rfl | rfl | rfl <;>
    simp [noBlankRun_cons, List.cons_prefix_cons, Ne.symm other, here]

/-- The squeeze, after the `run` newlines it has just written, never writes a third. -/
theorem squeezeNewlines_noBlankRun (cs : List Char) {run : Nat} (atMostTwo : run ≤ 2) :
    NoBlankRun (List.replicate run '\n' ++ squeezeNewlines run cs) := by
  induction cs generalizing run with
  | nil => exact noBlankRun_of_length_lt (by simp [squeezeNewlines]; omega)
  | cons c rest ih =>
    by_cases newline : c = '\n'
    · subst newline
      by_cases room : run < 2
      · -- The newline joins the run written so far.
        have longer := ih (show run + 1 ≤ 2 by omega)
        rw [List.replicate_succ', List.append_assoc] at longer
        simpa [squeezeNewlines, room] using longer
      · -- A third newline is dropped.
        simpa [squeezeNewlines, room] using ih atMostTwo
    · -- Another character ends the run.
      simpa [squeezeNewlines, newline] using
        noBlankRun_newlines_cons atMostTwo newline (by simpa using ih (show 0 ≤ 2 by omega))

/-- `strip()` keeps a middle part of the text. -/
theorem pyStrip_middle (s : String) : (pyStrip s).data <:+: s.data :=
  (List.rdropWhile_prefix isSpace _).isInfix.trans (List.dropWhile_suffix isSpace).isInfix

/-- A stripped text has no whitespace left at either end. -/
theorem pyStrip_pyStrip (s : String) : pyStrip (pyStrip s) = pyStrip s := by
  show String.mk (List.rdropWhile isSpace (List.dropWhile isSpace
    (List.rdropWhile isSpace (s.data.dropWhile isSpace)))) =
    String.mk (List.rdropWhile isSpace (s.data.dropWhile isSpace))
  -- The front of the twice-stripped text is the front of the once-stripped one, not whitespace.
  have front : (List.rdropWhile isSpace (s.data.dropWhile isSpace)).dropWhile isSpace =
      List.rdropWhile isSpace (s.data.dropWhile isSpace) := by
    obtain ⟨rest, kept⟩ := List.rdropWhile_prefix isSpace (s.data.dropWhile isSpace)
    cases stripped : List.rdropWhile isSpace (s.data.dropWhile isSpace) with
    | nil => rfl
    | cons c more =>
      rw [stripped] at kept
      have first := List.head_dropWhile_not isSpace s.data (by rw [← kept]; simp)
      simp only [← kept, List.cons_append, List.head_cons] at first
      simp [first]
  rw [front, List.rdropWhile_idempotent]

/--
For every state the parser is left in, `get_text` holds no three newlines in a row and has nothing
left to strip at either end.
-/
theorem getText_normalForm (p : HtmlToText) :
    ¬ ['\n', '\n', '\n'] <:+: p.getText.data ∧ pyStrip p.getText = p.getText := by
  have squeezed := squeezeNewlines_noBlankRun (String.join p.result).toList (Nat.zero_le 2)
  exact ⟨fun run => squeezed (run.trans (pyStrip_middle _)), pyStrip_pyStrip _⟩

end Moxxy
