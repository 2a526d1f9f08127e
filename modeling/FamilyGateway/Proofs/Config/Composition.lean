import FamilyGateway.Config.Directive
import FamilyGateway.Proofs.Text.Layout
import Mathlib.Logic.ExistsUnique

/-!
# Configurations line by line

The directives of a text are what the tokens of its lines say, each under the number of
its line (`Directive.parse_eq`). So the directives of a text that is put below another
one are the same as by themselves, only further down (`Directive.parse_join`).

What the tokens of a line mean is settled by the keyword, the number of operands and the
directory of the file (`Directive.Means`). How the tokens are laid out does not enter
(`Directive.parse_line_by_line`), so lines that were written token by token are read back as
what they mean (`Directive.parse_chars`).
-/

set_option autoImplicit false

namespace FamilyGateway.Directive

open Text

variable {file : Option String} {directory : Option (List Char)}

/-! ## Lines -/

/-- The directory from which the paths of included files are seen. -/
def directoryOf (file : Option String) : Option (List Char) :=
  file.bind fun path => Path.directory? path.toList

/-- A directive so many lines further down. -/
def lowered (count : Nat) (directive : Directive) : Directive :=
  { directive with line := directive.line + count }

/-- What the tokens of some lines say, the first line having the given number. -/
def ofLines (file : Option String) (number : Nat) (lines : List (List (List Char))) :
    List Directive :=
  (lines.zipIdx number).filterMap fun (tokens, number) =>
    (ofTokens? (directoryOf file) tokens).map fun kind => ⟨file, number, kind⟩

/-- Directives come from the tokens of lines. -/
theorem parse_eq (file : Option String) (text : String) :
    parse file text = ofLines file 1 (tokenLines text.toList) := by
  rw [ofLines, tokenLines, List.zipIdx_map, List.filterMap_map]
  rfl

theorem ofLines_append (file : Option String) (number : Nat)
    (lines more : List (List (List Char))) :
    ofLines file number (lines ++ more) =
      ofLines file number lines ++ ofLines file (number + lines.length) more := by
  rw [ofLines, List.zipIdx_append, List.filterMap_append]
  rfl

theorem ofLines_cons (file : Option String) (number : Nat) (tokens : List (List Char))
    (lines : List (List (List Char))) :
    ofLines file number (tokens :: lines) =
      ((ofTokens? (directoryOf file) tokens).map fun kind =>
        (⟨file, number, kind⟩ : Directive)).toList ++ ofLines file (number + 1) lines := by
  simp only [ofLines, List.zipIdx_cons, List.filterMap_cons]
  cases ofTokens? (directoryOf file) tokens <;> rfl

theorem ofLines_lowered (file : Option String) (number count : Nat)
    (lines : List (List (List Char))) :
    ofLines file (number + count) lines = (ofLines file number lines).map (lowered count) := by
  induction lines generalizing number with
  | nil => rfl
  | cons tokens lines ih =>
      rw [ofLines_cons, ofLines_cons, List.map_append, Nat.add_right_comm, ih]
      cases ofTokens? (directoryOf file) tokens <;> rfl

/-- Lines without tokens say nothing. -/
theorem ofLines_replicate (file : Option String) (number count : Nat) :
    ofLines file number (List.replicate count []) = [] := by
  induction count generalizing number with
  | zero => rfl
  | succ count ih => exact ih (number + 1)

/-- **Texts are read line by line**: what stands below a text is read as by itself. -/
theorem parse_join (file : Option String) (first second : String) :
    parse file (first ++ "\n" ++ second) =
      parse file first ++ (parse file second).map (lowered (1 + first.toList.count '\n')) := by
  have joined : (first ++ "\n" ++ second).toList = first.toList ++ '\n' :: second.toList := by
    simp
  rw [parse_eq, parse_eq, parse_eq, joined, tokenLines_append, ofLines_append, length_tokenLines,
    ofLines_lowered, Nat.add_comm 1 (first.toList.count '\n')]

/-- Carriage returns in front of line feeds do not matter. -/
theorem parse_returned {text returned : String} (same : Returned text.toList returned.toList) :
    parse file returned = parse file text := by
  rw [parse_eq, parse_eq, same.tokenLines]

/-- A line with tokens on it, among blanks, says what its tokens say. -/
theorem parse_laidOut {tokens : List (List Char)} {before line after : List Char}
    (proper : ∀ token ∈ tokens, IsToken token) (laid : LaidOut tokens line)
    (above : IsGap before) (below : IsGap after) :
    parse file (String.ofList (before ++ line ++ after)) =
      ((ofTokens? (directoryOf file) tokens).map fun kind =>
        (⟨file, 1 + before.count '\n', kind⟩ : Directive)).toList := by
  rw [parse_eq, String.toList_ofList, laid.tokenLines proper above below, ofLines_append,
    ofLines_replicate, List.length_replicate, ofLines_cons, ofLines_replicate, List.append_nil]
  rfl

/-! ## What tokens mean -/

/-- The known keywords with the number of operands that each of them expects. -/
def keywords : List (String × Nat) :=
  [("map-static", 2), ("map66-static", 2), ("mapping-prefix", 1), ("include", 1)]

/-- What a keyword and its operands mean in a file of the given directory. -/
inductive Means (directory : Option (List Char)) : List String → DirectiveKind → Prop where
  | mapStatic (ipv4 ipv6 : String) :
      Means directory ["map-static", ipv4, ipv6] (.mapStatic ipv4 ipv6)
  | map66Static (inner outer : String) :
      Means directory ["map66-static", inner, outer] (.map66Static inner outer)
  | mappingPrefix (address : String) :
      Means directory ["mapping-prefix", address] (.mappingPrefix address)
  /-- An absolute path stays as it is, and so does one that is seen from nowhere. -/
  | includeFile {path : String} (fixed : Path.isAbsolute path.toList ∨ directory = none) :
      Means directory ["include", path] (.includeFile path)
  /-- Other paths are seen from the directory. -/
  | includeBeside {path : String} {base : List Char} (relative : ¬Path.isAbsolute path.toList)
      (known : directory = some base) : Means directory ["include", path]
        (.includeFile (String.ofList (Path.resolve base path.toList)))
  | malformed {keyword : String} {operands : List String} {expected : Nat}
      (known : (keyword, expected) ∈ keywords) (wrong : operands.length ≠ expected) :
      Means directory (keyword :: operands) (.malformed keyword expected)
  | unknown {keyword : String} (operands : List String)
      (other : ∀ expected, (keyword, expected) ∉ keywords) :
      Means directory (keyword :: operands) (.unknown keyword)

theorem mem_keywords_iff {keyword : String} {expected : Nat} :
    (keyword, expected) ∈ keywords ↔
      keyword = "map-static" ∧ expected = 2 ∨ keyword = "map66-static" ∧ expected = 2 ∨
        keyword = "mapping-prefix" ∧ expected = 1 ∨ keyword = "include" ∧ expected = 1 := by
  simp only [keywords, List.mem_cons, Prod.mk.injEq, List.not_mem_nil, or_false]

theorem means_include (directory : Option (List Char)) (path : String) :
    Means directory ["include", path] (.includeFile (includedPath directory path.toList)) := by
  cases directory with
  | none =>
      rw [includedPath, String.ofList_toList]
      exact .includeFile (.inr rfl)
  | some base =>
      by_cases absolute : Path.isAbsolute path.toList
      · have kept : Path.resolve base path.toList = path.toList := if_pos absolute
        rw [includedPath, kept, String.ofList_toList]
        exact .includeFile (.inl absolute)
      · exact .includeBeside absolute rfl

/-- Every keyword with its operands means something. -/
theorem exists_means (directory : Option (List Char)) (keyword : String) (operands : List String) :
    ∃ kind, Means directory (keyword :: operands) kind := by
  by_cases known : ∃ expected, (keyword, expected) ∈ keywords
  · obtain ⟨expected, known⟩ := known
    by_cases right : operands.length = expected
    · rcases mem_keywords_iff.mp known with ⟨rfl, rfl⟩ | ⟨rfl, rfl⟩ | ⟨rfl, rfl⟩ | ⟨rfl, rfl⟩
      · match operands, right with
        | [ipv4, ipv6], _ => exact ⟨_, .mapStatic ipv4 ipv6⟩
      · match operands, right with
        | [inner, outer], _ => exact ⟨_, .map66Static inner outer⟩
      · match operands, right with
        | [address], _ => exact ⟨_, .mappingPrefix address⟩
      · match operands, right with
        | [path], _ => exact ⟨_, means_include directory path⟩
    · exact ⟨_, .malformed known right⟩
  · exact ⟨_, .unknown operands (not_exists.mp known)⟩

/-- A keyword and its operands are interpreted as what they mean. -/
theorem interpret_of_means {keyword : String} {operands : List String} {kind : DirectiveKind}
    (meant : Means directory (keyword :: operands) kind) :
    interpret directory keyword.toList (operands.map String.toList) = kind := by
  cases meant with
  | mapStatic => simp [interpret]
  | map66Static => simp [interpret]
  | mappingPrefix => simp [interpret]
  | @includeFile path fixed =>
      rcases fixed with absolute | rfl
      · cases directory with
        | none => simp [interpret, includedPath]
        | some base => simp [interpret, includedPath, Path.resolve, absolute]
      · simp [interpret, includedPath]
  | includeBeside relative known => simp [interpret, includedPath, known]
  | malformed known wrong =>
      rw [← List.length_map String.toList] at wrong
      generalize operands.map String.toList = operands at wrong ⊢
      simp only [interpret, String.ofList_toList]
      rcases mem_keywords_iff.mp known with ⟨rfl, rfl⟩ | ⟨rfl, rfl⟩ | ⟨rfl, rfl⟩ | ⟨rfl, rfl⟩ <;>
        split <;> simp_all
  | unknown operands other =>
      simp only [mem_keywords_iff] at other
      simp only [interpret, String.ofList_toList]
      split <;> simp_all

/-! ## Comments -/

/-- No token, or a first one that starts with `#`. -/
def IsSilent (tokens : List String) : Prop :=
  ∀ keyword ∈ tokens.head?, keyword.toList.head? = some '#'

theorem ofTokens?_of_isSilent {tokens : List String} (silent : IsSilent tokens) :
    ofTokens? directory (tokens.map String.toList) = none := by
  cases tokens with
  | nil => rfl
  | cons keyword operands => exact if_pos (silent keyword rfl)

theorem ofTokens?_of_means {tokens : List String} {kind : DirectiveKind} (spoken : ¬IsSilent tokens)
    (meant : Means directory tokens kind) :
    ofTokens? directory (tokens.map String.toList) = some kind := by
  cases tokens with
  | nil => cases meant
  | cons keyword operands =>
      have uncommented : keyword.toList.head? ≠ some '#' := fun comment =>
        spoken fun other first => by cases first; exact comment
      exact (if_neg uncommented).trans (congrArg some (interpret_of_means meant))

/-! ## Written lines -/

/-- A line that is no comment, given by its tokens, and what it means in a file of any directory. -/
structure Line where
  tokens : List String
  kind : DirectiveKind
  proper : ∀ token ∈ tokens, IsToken token.toList
  spoken : ¬IsSilent tokens
  meant : ∀ directory, Means directory tokens kind

/-- The characters of a line as it is written. -/
def Line.chars (line : Line) : List Char := written (line.tokens.map String.toList)

/-- Lines one below the other, the first one having the given number. -/
def numbered (file : Option String) (number : Nat) (kinds : List DirectiveKind) :
    List Directive :=
  (kinds.zipIdx number).map fun (kind, number) => ⟨file, number, kind⟩

theorem map_kind_numbered (file : Option String) (number : Nat) (kinds : List DirectiveKind) :
    (numbered file number kinds).map Directive.kind = kinds := by
  rw [numbered, List.map_map]
  exact List.zipIdx_map_fst number kinds

theorem ofLines_tokens (file : Option String) (number : Nat) (lines : List Line) :
    ofLines file number (lines.map fun line => line.tokens.map String.toList) =
      numbered file number (lines.map Line.kind) := by
  induction lines generalizing number with
  | nil => rfl
  | cons line lines ih =>
      rw [List.map_cons, ofLines_cons, ofTokens?_of_means line.spoken (line.meant _), ih]
      rfl

/-- Lines that were written are read back as what they mean, numbered from one. -/
theorem parse_chars (file : Option String) (lines : List Line) :
    parse file (String.ofList (lines.flatMap Line.chars)) =
      numbered file 1 (lines.map Line.kind) := by
  have proper : ∀ tokens ∈ lines.map fun line => line.tokens.map String.toList,
      ∀ token ∈ tokens, IsToken token := by
    simpa only [List.forall_mem_map] using fun line (_ : line ∈ lines) => line.proper
  have read : tokenLines (lines.flatMap Line.chars) =
      (lines.map fun line => line.tokens.map String.toList) ++ [[]] := by
    rw [← tokenLines_written proper, List.flatMap_map]
    rfl
  rw [parse_eq, String.toList_ofList, read, ofLines_append, ofLines_tokens, ofLines_cons]
  exact List.append_nil _

/-! ## Layout -/

/-- What the layout of a text has to do with its directives. -/
structure ReadsByLine (directory : Option (List Char)) (tokens : List String) : Prop where
  /-- A text below another one says the same further down, one line for each line feed of the other
  and one more, with or without carriage returns in front of line feeds. -/
  joined (file : Option String) (first second : String) {text : String}
    (returned : Returned (first ++ "\n" ++ second).toList text.toList) :
    parse file text =
      parse file first ++ (parse file second).map (lowered (1 + first.toList.count '\n'))
  /-- No tokens and a comment say nothing. -/
  silent (silent : IsSilent tokens) {file : Option String} {before line after : List Char}
    (above : IsGap before) (laid : LaidOut (tokens.map String.toList) line) (below : IsGap after)
    (seen : directoryOf file = directory) :
    parse file (String.ofList (before ++ line ++ after)) = []
  /-- Other tokens mean one thing in a directory, -/
  settled (spoken : ¬IsSilent tokens) : ∃! kind, Means directory tokens kind
  /-- and they mean it whatever the layout and the file. -/
  spoken (spoken : ¬IsSilent tokens) {kind : DirectiveKind} (meant : Means directory tokens kind)
    {file : Option String} {before line after : List Char} (above : IsGap before)
    (laid : LaidOut (tokens.map String.toList) line) (below : IsGap after)
    (seen : directoryOf file = directory) :
    parse file (String.ofList (before ++ line ++ after)) = [⟨file, 1 + before.count '\n', kind⟩]

/-- **A configuration is read line by line, and a line token by token**, whatever stands around
them. -/
theorem parse_line_by_line (directory : Option (List Char)) {tokens : List String}
    (proper : ∀ token ∈ tokens, IsToken token.toList) : ReadsByLine directory tokens := by
  have solid : ∀ token ∈ tokens.map String.toList, IsToken token := by
    simpa only [List.forall_mem_map] using proper
  constructor
  case joined =>
    intro file first second text returned
    rw [parse_returned returned, parse_join]
  case silent =>
    intro silent file before line after above laid below seen
    rw [parse_laidOut solid laid above below, seen, ofTokens?_of_isSilent silent]
    rfl
  case settled =>
    intro spoken
    cases tokens with
    | nil => exact absurd (fun _ first => nomatch first) spoken
    | cons keyword operands =>
        obtain ⟨kind, meant⟩ := exists_means directory keyword operands
        refine ⟨kind, meant, fun other also => Option.some.inj ?_⟩
        rw [← ofTokens?_of_means spoken meant, ← ofTokens?_of_means spoken also]
  case spoken =>
    intro spoken kind meant file before line after above laid below seen
    rw [parse_laidOut solid laid above below, seen, ofTokens?_of_means spoken meant]
    rfl

theorem parse_line_by_line_include :
    (∀ token ∈ ["include", "extra.conf"], IsToken token.toList) ∧
      ReadsByLine (some "/etc".toList) ["include", "extra.conf"] := by
  have proper : ∀ token ∈ ["include", "extra.conf"], IsToken token.toList := by
    simp only [List.forall_mem_cons]
    exact ⟨isToken_of_all (by decide) (by decide), isToken_of_all (by decide) (by decide),
      fun _ absent => nomatch absent⟩
  exact ⟨proper, parse_line_by_line _ proper⟩

example : parse (some "/etc/main.conf") "\n \tinclude\u00a0extra.conf\r\n#\n" =
    [⟨some "/etc/main.conf", 2, .includeFile "/etc/extra.conf"⟩] := by
  decide +kernel

end FamilyGateway.Directive
