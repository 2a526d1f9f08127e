import FamilyGateway.Text.Blank

/-!
# Tokens on lines

Of a text the tokens of each line matter and nothing else (`tokenLines`). A line feed
between two texts puts the lines of the one in front of the lines of the other
(`tokenLines_append`), and a carriage return before a line feed makes no difference,
because it is a blank at the end of a line (`Returned.tokenLines`).

Tokens may be laid out on a line with any blanks around them and any blanks but line
feeds between them (`LaidOut`). Then they are the tokens of that line, and every other
line of the text has none (`LaidOut.tokenLines`).
-/

set_option autoImplicit false

namespace FamilyGateway.Text

variable {character : Char} {gap before after line text : List Char}

/-! ## Tokens -/

/-- At least one character, and none of them blank. -/
structure IsToken (token : List Char) : Prop where
  nonempty : token ≠ []
  solid : ∀ character ∈ token, isBlank character = false

theorem isToken_of_all {token : List Char} (nonempty : token ≠ [])
    (solid : token.all (fun character => !isBlank character) = true) : IsToken token where
  nonempty := nonempty
  solid character member := by
    have other := List.all_eq_true.mp solid character member
    rwa [Bool.not_eq_true'] at other

theorem IsToken.append {front back : List Char} (first : IsToken front) (second : IsToken back) :
    IsToken (front ++ back) where
  nonempty := List.append_ne_nil_of_left_ne_nil first.nonempty back
  solid character member :=
    (List.mem_append.mp member).elim (first.solid character) (second.solid character)

/-- Nothing but blanks. -/
def IsGap (gap : List Char) : Prop := ∀ character ∈ gap, isBlank character = true

theorem isBlank_lineFeed : isBlank '\n' = true := by decide

theorem IsToken.lineFeed_notMem {token : List Char} (proper : IsToken token) : '\n' ∉ token := by
  intro member
  cases isBlank_lineFeed.symm.trans (proper.solid _ member)

/-- A blank ends a token. -/
theorem tokens_append (front rest : List Char) (blank : isBlank character = true) :
    tokens (front ++ character :: rest) = tokens front ++ tokens rest := by
  rw [tokens, List.splitOnP_append_cons front rest blank, List.filter_append]
  rfl

theorem tokens_cons_of_blank (rest : List Char) (blank : isBlank character = true) :
    tokens (character :: rest) = tokens rest :=
  tokens_append [] rest blank

theorem tokens_gap_append (blank : IsGap gap) (line : List Char) :
    tokens (gap ++ line) = tokens line := by
  induction gap with
  | nil => rfl
  | cons character gap ih =>
      obtain ⟨first, rest⟩ := List.forall_mem_cons.mp blank
      rw [List.cons_append, tokens_cons_of_blank _ first, ih rest]

theorem tokens_of_isToken {token : List Char} (proper : IsToken token) :
    tokens token = [token] := by
  rw [tokens, List.splitOnP_eq_singleton proper.solid]
  simp [proper.nonempty]

/-! ## Lines -/

/-- The tokens of each line of a text. -/
def tokenLines (text : List Char) : List (List (List Char)) := (lines text).map tokens

theorem tokenLines_append (front rest : List Char) :
    tokenLines (front ++ '\n' :: rest) = tokenLines front ++ tokenLines rest := by
  rw [tokenLines, lines, List.splitOn_append_cons_self, List.map_append]
  rfl

theorem lineFeed_notMem_concat (single : '\n' ∉ line) (other : character ≠ '\n') :
    '\n' ∉ line ++ [character] := by
  rw [List.mem_append, List.mem_singleton]
  exact fun member => member.elim single fun same => other same.symm

theorem tokenLines_of_notMem (single : '\n' ∉ line) : tokenLines line = [tokens line] := by
  rw [tokenLines, lines, List.splitOn_eq_singleton single, List.map_singleton]

/-- There is one line more than there are line feeds. -/
theorem length_tokenLines (text : List Char) :
    (tokenLines text).length = text.count '\n' + 1 := by
  induction text with
  | nil => rfl
  | cons character text ih =>
      rw [tokenLines, List.length_map] at ih ⊢
      rw [lines, List.splitOn_cons_eq_if_modifyHead, List.count_cons]
      split
      · rw [List.length_cons]
        exact congrArg (· + 1) ih
      · rw [List.length_modifyHead]
        exact ih

/-- Blanks in front of a text put lines without tokens in front of its lines, one for each line
feed. -/
theorem tokenLines_gap_append (blank : IsGap gap) (text : List Char) :
    tokenLines (gap ++ text) = List.replicate (gap.count '\n') [] ++ tokenLines text := by
  induction gap with
  | nil => rfl
  | cons character gap ih =>
      obtain ⟨first, rest⟩ := List.forall_mem_cons.mp blank
      rw [List.cons_append]
      by_cases feed : character = '\n'
      · have skipped := tokenLines_append [] (gap ++ text)
        rw [feed, List.count_cons_self, List.replicate_succ, List.cons_append, ← ih rest]
        exact skipped
      · obtain ⟨line, lines, cut⟩ :=
          List.exists_cons_of_ne_nil (List.splitOn_ne_nil '\n' (gap ++ text))
        have joined : Text.lines (character :: (gap ++ text)) = (character :: line) :: lines := by
          rw [Text.lines, List.splitOn_cons_eq_if_modifyHead, cut]
          simp [feed]
        rw [List.count_cons_of_ne feed, ← ih rest, tokenLines, tokenLines, joined, Text.lines, cut,
          List.map_cons, List.map_cons, tokens_cons_of_blank line first]

/-- Blanks behind a line put lines without tokens behind it, one for each line feed. -/
theorem tokenLines_append_gap (single : '\n' ∉ line) (blank : IsGap gap) :
    tokenLines (line ++ gap) = tokens line :: List.replicate (gap.count '\n') [] := by
  induction gap generalizing line with
  | nil => rw [List.append_nil, tokenLines_of_notMem single]; rfl
  | cons character gap ih =>
      obtain ⟨first, rest⟩ := List.forall_mem_cons.mp blank
      by_cases feed : character = '\n'
      · have later := ih List.not_mem_nil rest
        rw [feed, tokenLines_append, tokenLines_of_notMem single, List.count_cons_self,
          List.replicate_succ]
        exact congrArg (tokens line :: ·) later
      · have longer := lineFeed_notMem_concat single feed
        rw [List.append_cons, ih longer rest, tokens_append line [] first,
          List.count_cons_of_ne feed]
        exact congrArg (· :: _) (List.append_nil _)

/-! ## Carriage returns -/

/-- The second text is the first one with a carriage return in front of some of its line feeds. -/
inductive Returned : List Char → List Char → Prop where
  | nothing : Returned [] []
  | same (character : Char) {text returned : List Char} (rest : Returned text returned) :
      Returned (character :: text) (character :: returned)
  | inserted {text returned : List Char} (rest : Returned text returned) :
      Returned ('\n' :: text) ('\r' :: '\n' :: returned)

/-- Carriage returns in front of line feeds do not change the tokens of any line. -/
theorem Returned.tokenLines {returned : List Char} (same : Returned text returned) :
    tokenLines returned = tokenLines text := by
  -- A character matters to the token that it is in, so the line read so far is carried along.
  suffices ∀ front, '\n' ∉ front →
      Text.tokenLines (front ++ returned) = Text.tokenLines (front ++ text) from
    this [] List.not_mem_nil
  induction same with
  | nothing => exact fun _ _ => rfl
  | same character rest ih =>
      intro front single
      by_cases feed : character = '\n'
      · rw [feed, tokenLines_append, tokenLines_append]
        exact congrArg (_ ++ ·) (ih [] List.not_mem_nil)
      · have later := ih (front ++ [character]) (lineFeed_notMem_concat single feed)
        rwa [← List.append_cons, ← List.append_cons] at later
  | @inserted text returned rest ih =>
      intro front single
      have ended : Text.tokenLines (front ++ ['\r']) = Text.tokenLines front := by
        have blank : IsGap ['\r'] := by simp only [IsGap, List.mem_singleton, forall_eq]; decide
        rw [tokenLines_append_gap single blank, tokenLines_of_notMem single]
        rfl
      rw [List.append_cons, tokenLines_append, tokenLines_append, ended]
      exact congrArg (_ ++ ·) (ih [] List.not_mem_nil)

/-! ## Layout -/

/-- Tokens on a line: some blanks, but no line feed, between any two. -/
inductive LaidOut : List (List Char) → List Char → Prop where
  | nothing : LaidOut [] []
  | last (token : List Char) : LaidOut [token] token
  | token (token : List Char) {next : List Char} {tokens : List (List Char)}
      {gap line : List Char} (apart : gap ≠ []) (blank : IsGap gap) (single : '\n' ∉ gap)
      (rest : LaidOut (next :: tokens) line) :
      LaidOut (token :: next :: tokens) (token ++ gap ++ line)

namespace LaidOut

variable {tokens : List (List Char)}

theorem lineFeed_notMem (laid : LaidOut tokens line) (proper : ∀ token ∈ tokens, IsToken token) :
    '\n' ∉ line := by
  induction laid with
  | nothing => exact List.not_mem_nil
  | last token => exact (proper token List.mem_cons_self).lineFeed_notMem
  | token token apart blank single rest ih =>
      obtain ⟨first, later⟩ := List.forall_mem_cons.mp proper
      simp only [List.mem_append, not_or]
      exact ⟨⟨first.lineFeed_notMem, single⟩, ih later⟩

/-- The tokens of a line are those that were laid out on it. -/
theorem tokens_eq (laid : LaidOut tokens line) (proper : ∀ token ∈ tokens, IsToken token) :
    Text.tokens line = tokens := by
  induction laid with
  | nothing => rfl
  | last token => exact tokens_of_isToken (proper token List.mem_cons_self)
  | token token apart blank single rest ih =>
      obtain ⟨first, later⟩ := List.forall_mem_cons.mp proper
      obtain ⟨character, gap, rfl⟩ := List.exists_cons_of_ne_nil apart
      obtain ⟨ends, blank⟩ := List.forall_mem_cons.mp blank
      rw [List.append_assoc, List.cons_append, tokens_append token _ ends, tokens_of_isToken first,
        tokens_gap_append blank, ih later]
      rfl

/-- Of a line among blanks, the line has the tokens laid out on it and the other ones have none. -/
theorem tokenLines (laid : LaidOut tokens line) (proper : ∀ token ∈ tokens, IsToken token)
    (above : IsGap before) (below : IsGap after) :
    Text.tokenLines (before ++ line ++ after) =
      List.replicate (before.count '\n') [] ++ tokens :: List.replicate (after.count '\n') [] := by
  rw [List.append_assoc, tokenLines_gap_append above,
    tokenLines_append_gap (laid.lineFeed_notMem proper) below, laid.tokens_eq proper]

end LaidOut

/-! ## Writing lines -/

/-- Tokens as they are written on a line, with a space between any two and a line feed behind
them. -/
def written (tokens : List (List Char)) : List Char := [' '].intercalate tokens ++ ['\n']

theorem laidOut_intercalate (tokens : List (List Char)) :
    LaidOut tokens ([' '].intercalate tokens) := by
  induction tokens with
  | nil => exact .nothing
  | cons token tokens ih =>
      cases tokens with
      | nil =>
          rw [List.intercalate_singleton]
          exact .last token
      | cons next tokens =>
          have blank : IsGap [' '] := by simp only [IsGap, List.mem_singleton, forall_eq]; decide
          rw [List.intercalate_cons_cons]
          exact .token token (by decide) blank (by decide) ih

/-- Written lines are read back, and behind the last line feed there is nothing. -/
theorem tokenLines_written {lines : List (List (List Char))}
    (proper : ∀ tokens ∈ lines, ∀ token ∈ tokens, IsToken token) :
    tokenLines (lines.flatMap written) = lines ++ [[]] := by
  induction lines with
  | nil => rfl
  | cons tokens lines ih =>
      obtain ⟨first, later⟩ := List.forall_mem_cons.mp proper
      have laid := laidOut_intercalate tokens
      rw [List.flatMap_cons, written, List.append_assoc, List.singleton_append, tokenLines_append,
        tokenLines_of_notMem (laid.lineFeed_notMem first), laid.tokens_eq first, ih later]
      rfl

end FamilyGateway.Text
