import Moxxy.Workspace.Requests

/-!
How Drive reads the queries `drive_list` and `drive_search` send. Drive's query language writes a
text as a literal between single quotes, in which `\'` stands for a quote and `\\` for a backslash.
The code puts the caller's text between the quotes as it came: a text without quote or backslash is
read as the one literal meant, while a quote in it ends the literal early and the rest of the text
is read as query syntax.
-/

namespace Moxxy

/--
A Drive literal from just after its opening quote: what it reads as, up to its closing quote, a
backslash taking the next character as it is, and what follows; none when it never closes.
-/
def literalBody : List Char → Option (List Char × List Char)
  | [] => none
  | '\'' :: rest => some ([], rest)
  | '\\' :: c :: rest => (literalBody rest).map fun read => (c :: read.1, read.2)
  | c :: rest => (literalBody rest).map fun read => (c :: read.1, read.2)

/--
The first literal of a Drive query: the text in front of its opening quote, what the literal reads
as, and what follows its closing quote.
-/
def firstLiteral : List Char → Option (List Char × List Char × List Char)
  | [] => none
  | '\'' :: rest => (literalBody rest).map fun read => ([], read.1, read.2)
  | c :: rest => (firstLiteral rest).map fun found => (c :: found.1, found.2)

/-- A text with neither quote nor backslash: between quotes it stands for itself. -/
def Plain (cs : List Char) : Prop := '\'' ∉ cs ∧ '\\' ∉ cs

instance : DecidablePred Plain := fun cs => inferInstanceAs (Decidable ('\'' ∉ cs ∧ '\\' ∉ cs))

section Literals

/-- A plain text, then a quote: the literal is that text, and it ends at that quote. -/
theorem literalBody_plain {text : List Char} (plain : Plain text) (after : List Char) :
    literalBody (text ++ '\'' :: after) = some (text, after) := by
  induction text with
  | nil => rfl
  | cons c rest ih =>
    obtain ⟨noQuote, noSlash⟩ := plain
    simp only [List.mem_cons, not_or] at noQuote noSlash
    have restPlain := ih ⟨noQuote.2, noSlash.2⟩
    rw [List.cons_append,
      literalBody.eq_4 c _ (Ne.symm noQuote.1) fun _ _ slash _ => noSlash.1 slash.symm, restPlain]
    rfl

/-- Text without quote in front of a literal: the literal is the first. -/
theorem firstLiteral_after {front : List Char} (noQuote : '\'' ∉ front) (rest : List Char) :
    firstLiteral (front ++ '\'' :: rest) =
      (literalBody rest).map fun read => (front, read.1, read.2) := by
  induction front with
  | nil => rfl
  | cons c more ih =>
    simp only [List.mem_cons, not_or] at noQuote
    rw [List.cons_append, firstLiteral.eq_3 c _ (Ne.symm noQuote.1), ih noQuote.2, Option.map_map]
    rfl

end Literals

/-- The query of `drive_search` around its term. -/
theorem driveSearchQuery_data (term : String) :
    (driveSearchQuery term).data =
      "name contains ".data ++ '\'' :: (term.data ++ '\'' :: " and trashed = false".data) := rfl

/--
Drive's reading of the queries the code sends. For every search term without quote or backslash,
`drive_search`'s query has the term as its literal, followed by the trash filter; for every term
with a quote, and no quote or backslash before it, the literal ends at that quote and the rest of
the term, then `' and trashed = false`, follows it as query syntax. Likewise a folder id without
quote or backslash is the literal of `drive_list`'s query.
-/
theorem driveQueries_quoteTerm (term folderId : String) (query : Option String) :
    (Plain term.data → firstLiteral (driveSearchQuery term).data =
      some ("name contains ".data, term.data, " and trashed = false".data)) ∧
    (∀ front back, term = front ++ "'" ++ back → Plain front.data →
      firstLiteral (driveSearchQuery term).data =
        some ("name contains ".data, front.data, (back ++ "' and trashed = false").data)) ∧
    (Plain folderId.data →
      ∃ after,
        firstLiteral (driveListQuery folderId query).data = some ([], folderId.data, after)) := by
  have front : '\'' ∉ "name contains ".data := by decide
  refine ⟨fun plain => ?_, fun before after split plain => ?_, fun plain => ?_⟩
  · rw [driveSearchQuery_data, firstLiteral_after front, literalBody_plain plain]
    rfl
  · -- The quote in the term closes the literal; the rest of the term comes after it.
    subst split
    rw [driveSearchQuery_data, firstLiteral_after front]
    simp only [String.data_append, List.append_assoc]
    rw [List.singleton_append, literalBody_plain plain]
    rfl
  · have listed : ∃ rest, (driveListQuery folderId query).data =
        '\'' :: (folderId.data ++ '\'' :: rest) := by
      unfold driveListQuery
      split
      · split_ifs
        · exact ⟨_, by simp [String.data_append]; rfl⟩
        · exact ⟨_, rfl⟩
      · exact ⟨_, rfl⟩
    obtain ⟨rest, shape⟩ := listed
    exact ⟨rest, by rw [shape, firstLiteral.eq_2, literalBody_plain plain]; rfl⟩

/-- Searching for `O'Brien`: the literal is `O`, and `Brien` is left to be read as query syntax. -/
theorem driveQueries_quoteTerm_oBrien :
    "O'Brien" = "O" ++ "'" ++ "Brien" ∧ Plain "O".data ∧
      firstLiteral (driveSearchQuery "O'Brien").data =
        some ("name contains ".data, "O".data, ("Brien" ++ "' and trashed = false").data) :=
  ⟨rfl, by decide, (driveQueries_quoteTerm "O'Brien" "root" none).2.1 "O" "Brien" rfl (by decide)⟩

end Moxxy
