import Recommender.Proofs.Script.Comments

/-! Places of statements. What is left of a text without its comments keeps its places in the text,
and a statement is numbered by the line of the text that it begins on.
-/

namespace Recommender.Script

-----------------------------------------------------------------------------------------
-- Lines of a text
-----------------------------------------------------------------------------------------

/-- A text in which every line is ended by a line feed, or by a carriage return and a line feed. -/
def FeedsOnly : Text → Prop
  | [] => True
  | c :: rest =>
    (c.isLineEnd = true →
      c = CodePoint.lineFeed
      ∨ c = CodePoint.carriageReturn ∧ rest.head? = some CodePoint.lineFeed)
    ∧ FeedsOnly rest

instance decidableFeedsOnly : (t : Text) → Decidable (FeedsOnly t)
  | [] => isTrue trivial
  | _ :: rest =>
    have := decidableFeedsOnly rest
    inferInstanceAs (Decidable (_ ∧ _))

/-- The line that a place in a text is on: as many lines as the text has up to there. -/
def lineAt (t : Text) (i : Nat) : Nat :=
  (Text.lines (t.take (i + 1))).length

theorem length_lines_cons {c : CodePoint} (stays : c.isLineEnd = false) {t : Text}
    (nonempty : t ≠ [])
    : (Text.lines (c :: t)).length = (Text.lines t).length := by
  rw [Text.lines_cons stays]
  have some : Text.lines t ≠ [] := by
    fun_cases Text.lines t with
    | case1 => exact absurd rfl nonempty
    | case2 => simp
    | case3 => simp
    | case4 c rest => cases Text.lines rest <;> simp [Text.addToFirst]
  obtain ⟨first, others, form⟩ := List.exists_cons_of_ne_nil some
  rw [form]
  rfl

/-- Lines are counted by line feeds alone, by list induction. -/
theorem lineAt_eq {t : Text} (feeds : FeedsOnly t) {i : Nat} {c : CodePoint}
    (here : t[i]? = some c) (stays : c.isLineEnd = false)
    : lineAt t i = 1 + (t.take i).count CodePoint.lineFeed := by
  induction t generalizing i with
  | nil => cases here
  | cons first rest ih =>
      cases i with
      | zero =>
          obtain rfl := Option.some.inj here
          rw [lineAt, List.take_succ_cons, List.take_zero, Text.lines_cons stays]
          rfl
      | succ i =>
          have behind : rest.take (i + 1) ≠ [] := by
            rintro none
            rcases List.take_eq_nil_iff.mp none with zero | rfl
            · cases zero
            · cases here
          have later := ih feeds.2 here
          rw [lineAt] at later ⊢
          rw [List.take_succ_cons, List.take_succ_cons, List.count_cons]
          cases ends : first.isLineEnd with
          | false =>
              have noFeed := CodePoint.ne_lineFeed ends
              simpa [length_lines_cons ends behind, noFeed] using later
          | true =>
              rcases feeds.1 ends with rfl | ⟨rfl, next⟩
              · have cut := Text.lines_append_lineFeed Text.onOneLine_nil (rest.take (i + 1))
                rw [List.nil_append] at cut
                rw [cut, List.length_cons, later]
                simp [Nat.add_assoc]
              · -- the line feed behind it is counted instead
                cases rest with
                | nil => cases next
                | cons second others =>
                    obtain rfl := Option.some.inj next
                    rw [List.take_succ_cons] at later ⊢
                    exact later

-----------------------------------------------------------------------------------------
-- Places
-----------------------------------------------------------------------------------------

/-- What is left of a text without its comments, each code point with its place in the text. -/
def places (t : Text) : List (CodePoint × Nat) :=
  (roles .code t).zipIdx.filterMap fun (entry, i) => (left? entry).map fun left => (left.1, i)

theorem left?_fst {entry left : CodePoint × Role} (isLeft : left? entry = some left)
    : left.1 = entry.1 := by
  unfold left? at isLeft
  split at isLeft
  · cases isLeft
    rfl
  · split at isLeft
    · next ends =>
        cases isLeft
        exact ends.symm
    · cases isLeft

theorem map_fst_filterMap_places (entries : List ((CodePoint × Role) × Nat))
    : (entries.filterMap fun (entry, i) => (left? entry).map fun left => (left.1, i)).map Prod.fst
      = ((entries.map Prod.fst).filterMap left?).map Prod.fst := by
  simp only [List.map_filterMap, List.filterMap_map, Option.map_map, Function.comp_def]

theorem map_fst_places {t u : Text} (left : strip t = .ok u) : (places t).map Prod.fst = u := by
  rw [places, map_fst_filterMap_places, List.zipIdx_map_fst, ← roles_strip left, map_fst_roles]

/-- A member of a numbered list stands behind as many members as its number says. -/
theorem eq_append_of_zipIdx {α : Type} {l : List α} {front back : List (α × Nat)} {a : α} {i : Nat}
    (form : l.zipIdx = front ++ (a, i) :: back)
    : l = front.map Prod.fst ++ a :: back.map Prod.fst ∧ i = front.length := by
  constructor
  · rw [← List.zipIdx_map_fst 0 l, form, List.map_append, List.map_cons]
  · have here := congrArg (·[front.length]?) form
    simp only [List.getElem?_zipIdx, List.getElem?_append_right (Nat.le_refl _), Nat.sub_self,
      List.getElem?_cons_zero, Option.map_eq_some_iff, Prod.mk.injEq] at here
    obtain ⟨_, _, _, same⟩ := here
    omega

/-- Each code point that is left stands at its place in the text, behind as many line feeds as are
left before it.
-/
theorem places_eq_append {t : Text} {front back : List (CodePoint × Nat)} {c : CodePoint} {i : Nat}
    (form : places t = front ++ (c, i) :: back)
    : t[i]? = some c
      ∧ (t.take i).count CodePoint.lineFeed = (front.map Prod.fst).count CodePoint.lineFeed := by
  obtain ⟨before, behind, cut, rfl, rest⟩ := List.filterMap_eq_append_iff.mp form
  obtain ⟨dropped, ⟨entry, j⟩, after, rfl, none, made, -⟩ := List.filterMap_eq_cons_iff.mp rest
  simp only [Option.map_eq_some_iff, Prod.mk.injEq] at made
  obtain ⟨left, isLeft, rfl, rfl⟩ := made
  rw [← List.append_assoc] at cut
  obtain ⟨whole, rfl⟩ := eq_append_of_zipIdx cut
  have text : t = ((before ++ dropped).map Prod.fst).map Prod.fst
      ++ entry.1 :: (after.map Prod.fst).map Prod.fst := by
    rw [← map_fst_roles .code t, whole, List.map_append, List.map_cons]
  have length : (before ++ dropped).length
      = (((before ++ dropped).map Prod.fst).map Prod.fst).length := by
    rw [List.length_map, List.length_map]
  constructor
  · rw [left?_fst isLeft, length, text, List.getElem?_append_right (Nat.le_refl _)]
    simp
  · have nothing : dropped.filterMap (fun (entry, i) => (left? entry).map fun left => (left.1, i))
        = [] := List.filterMap_eq_nil_iff.mpr none
    have counted := count_left ((before ++ dropped).map Prod.fst)
    rw [← map_fst_filterMap_places, List.filterMap_append, nothing, List.append_nil] at counted
    rw [counted, length]
    conv => lhs; rw [text]
    rw [List.take_left]

/-- No line is ended in another way when comments are removed, by list induction. -/
theorem feedsOnly_left {entries : List (CodePoint × Role)}
    (feeds : FeedsOnly (entries.map Prod.fst))
    : FeedsOnly ((entries.filterMap left?).map Prod.fst) := by
  induction entries with
  | nil => trivial
  | cons entry rest ih =>
      have later := ih feeds.2
      cases isLeft : left? entry with
      | none => rwa [List.filterMap_cons_none isLeft]
      | some left =>
          rw [List.filterMap_cons_some isLeft, List.map_cons, left?_fst isLeft]
          refine ⟨fun ends => ?_, later⟩
          rcases feeds.1 ends with feed | ⟨isReturn, next⟩
          · exact .inl feed
          · cases rest with
            | nil => cases next
            | cons second others =>
                obtain ⟨c, role⟩ := second
                obtain rfl : c = CodePoint.lineFeed := Option.some.inj next
                obtain ⟨role', leftNext⟩ := left?_lineFeed role
                exact .inr ⟨isReturn, by rw [List.filterMap_cons_some leftNext]; rfl⟩

-----------------------------------------------------------------------------------------
-- Statements and their places
-----------------------------------------------------------------------------------------

/-- The segments of a text between line ends and the semicolons outside literals. -/
def segments (opened : Option LineLiteral)
    : List (CodePoint × Nat) → List (List (CodePoint × Nat))
  | [] => [[]]
  | place :: rest =>
    if place.1.isLineEnd || (opened.isNone && place.1 = CodePoint.semicolon) then
      [] :: segments none rest
    else (segments (literalAfter place.1 opened) rest).modifyHead (place :: ·)

/-- A segment without the blanks at its two ends, if it has content, and the place where that begins.
-/
def statement? (segment : List (CodePoint × Nat)) : Option (Nat × Text) :=
  match segment.dropWhile (·.1.isBlank) with
  | [] => none
  | first :: rest => some (first.2, Text.trimEnd ((first :: rest).map Prod.fst))

/-- The statements of a text and the places that they begin at. -/
def statementsAt (t : Text) : List (Nat × Text) :=
  (segments none (places t)).filterMap statement?

theorem segments_ne_nil (opened : Option LineLiteral) (t : List (CodePoint × Nat))
    : segments opened t ≠ [] := by
  induction t generalizing opened with
  | nil => simp [segments]
  | cons place rest ih =>
      rw [segments]
      split
      · simp
      · simpa using ih _

/-- A line end ends the segment before it, by list induction. -/
theorem segments_append {place : CodePoint × Nat} (ends : place.1.isLineEnd = true)
    (opened : Option LineLiteral) (front back : List (CodePoint × Nat))
    : segments opened (front ++ place :: back) = segments opened front ++ segments none back := by
  induction front generalizing opened with
  | nil => simp [segments, ends]
  | cons first rest ih =>
      rw [List.cons_append, segments, segments]
      split
      · rw [ih, List.cons_append]
      · obtain ⟨second, others, cut⟩ :=
          List.exists_cons_of_ne_nil (segments_ne_nil (literalAfter first.1 opened) rest)
        rw [ih, cut]
        rfl

/-- The segments of a line are its pieces, by list induction. -/
theorem map_fst_segments {line : List (CodePoint × Nat)}
    (single : Text.OnOneLine (line.map Prod.fst)) (opened : Option LineLiteral)
    : (segments opened line).map (·.map Prod.fst) = pieces opened (line.map Prod.fst) := by
  induction line generalizing opened with
  | nil => rfl
  | cons first rest ih =>
      have stays := single first.1 List.mem_cons_self
      have later := ih (fun c member => single c (List.mem_cons_of_mem _ member))
      rw [segments, List.map_cons, pieces, stays, Bool.false_or]
      split
      · rw [List.map_cons, later]
        rfl
      · rw [← later]
        obtain ⟨second, others, cut⟩ :=
          List.exists_cons_of_ne_nil (segments_ne_nil (literalAfter first.1 opened) rest)
        rw [cut]
        rfl

/-- Segments are made of the places of the text, by list induction. -/
theorem flatten_segments (opened : Option LineLiteral) (t : List (CodePoint × Nat))
    : (segments opened t).flatten.Sublist t := by
  induction t generalizing opened with
  | nil => exact .slnil
  | cons place rest ih =>
      rw [segments]
      split
      · exact (ih none).cons place
      · obtain ⟨second, others, cut⟩ :=
          List.exists_cons_of_ne_nil (segments_ne_nil (literalAfter place.1 opened) rest)
        have later := ih (literalAfter place.1 opened)
        rw [cut] at later ⊢
        exact later.cons_cons place

/-- A statement begins with a code point of its segment that is not blank. -/
theorem head?_of_statement? {segment : List (CodePoint × Nat)} {i : Nat} {statement : Text}
    (found : statement? segment = some (i, statement))
    : ∃ c, (c, i) ∈ segment ∧ c.isBlank = false ∧ statement.head? = some c := by
  unfold statement? at found
  split at found
  · cases found
  · next first rest behind =>
      simp only [Option.some.injEq, Prod.mk.injEq] at found
      obtain ⟨rfl, rfl⟩ := found
      have visible := List.head?_dropWhile_not (·.1.isBlank) segment
      rw [behind] at visible
      have ends : ∀ c ∈ [first.1].getLast?, c.isBlank = false := by simpa using visible
      have begins := Text.trimEnd_append ends (rest.map Prod.fst)
      refine ⟨first.1, ?_, visible, ?_⟩
      · exact (List.dropWhile_suffix _).subset (behind ▸ List.mem_cons_self)
      · rw [List.map_cons, ← List.singleton_append, begins]
        rfl

/-- The statement of a segment is its trimmed text, if that has content. -/
theorem map_snd_statement? (segment : List (CodePoint × Nat))
    : (statement? segment).map Prod.snd
      = Option.guard (· ≠ []) (Text.trim (segment.map Prod.fst)) := by
  have trimmed : Text.trim (segment.map Prod.fst)
      = Text.trimEnd ((segment.dropWhile (·.1.isBlank)).map Prod.fst) := by
    rw [Text.trim, Text.trimStart, List.dropWhile_map]
    rfl
  rw [trimmed]
  cases found : statement? segment with
  | none =>
      unfold statement? at found
      split at found
      · next nothing =>
          rw [nothing]
          rfl
      · cases found
  | some begun =>
      obtain ⟨c, -, -, head⟩ := head?_of_statement? found
      unfold statement? at found
      split at found
      · cases found
      · next first rest behind =>
          obtain rfl := Option.some.inj found
          have nonempty : Text.trimEnd ((first :: rest).map Prod.fst) ≠ [] := by
            intro empty
            rw [empty] at head
            cases head
          rw [behind, Option.guard, if_pos (by simpa using nonempty)]
          rfl

/-- The statements of a line and the places that they begin at. -/
theorem map_snd_statements {line : List (CodePoint × Nat)}
    (single : Text.OnOneLine (line.map Prod.fst))
    : ((segments none line).filterMap statement?).map Prod.snd
      = statements (line.map Prod.fst) := by
  rw [statements, ← map_fst_segments single, ← List.filterMap_eq_filter, List.map_map,
    List.filterMap_map, List.map_filterMap]
  exact List.filterMap_congr fun segment _ => map_snd_statement? segment

-----------------------------------------------------------------------------------------
-- Numbers
-----------------------------------------------------------------------------------------

/-- Places that are numbered by the lines of a text which begins on a line. -/
def Numbered (number : Nat → Nat) (line : Nat) (t : List (CodePoint × Nat)) : Prop :=
  ∀ front c i back,
    t = front ++ (c, i) :: back
      → c.isLineEnd = false
      → number i = line + (front.map Prod.fst).count CodePoint.lineFeed

/-- The statements of a text that begins on a line, each with the number of its line. -/
def numberedFrom (line : Nat) (t : Text) : List (Nat × Text) :=
  (t.lines.zipIdx line).flatMap fun (text, number) => (statements text).map (number, ·)

theorem count_lineFeed {t : Text} (single : Text.OnOneLine t)
    : t.count CodePoint.lineFeed = 0 := by
  rw [List.count_eq_zero]
  intro member
  cases single _ member

/-- Places behind the first line end are numbered from the next line on. -/
theorem Numbered.behind {number : Nat → Nat} {n : Nat} {line : List (CodePoint × Nat)}
    {place : CodePoint × Nat} {rest : List (CodePoint × Nat)}
    (numbered : Numbered number n (line ++ place :: rest))
    (single : Text.OnOneLine (line.map Prod.fst))
    : Numbered number (lineAfter n place.1) rest := by
  intro front c i back form stays
  have whole : line ++ place :: rest = (line ++ place :: front) ++ (c, i) :: back := by
    rw [form, List.append_assoc, List.cons_append]
  rw [numbered _ c i back whole stays, List.map_append, List.count_append,
    count_lineFeed single, List.map_cons, List.count_cons, lineAfter]
  by_cases ends : place.1 = CodePoint.lineFeed <;> simp [ends]
  omega

/-- A line by itself has the number that the text begins with. -/
theorem numberedFrom_line {line : Text} (single : Text.OnOneLine line) (n : Nat)
    : numberedFrom n line = (statements line).map (n, ·) := by
  by_cases empty : line = []
  · subst empty
    rfl
  · rw [numberedFrom, Text.lines_single single empty]
    simp

/-- A line end gives the text behind it the next number, unless it is followed by a line feed of its
own.
-/
theorem numberedFrom_append {line : Text} (single : Text.OnOneLine line) {c : CodePoint}
    {rest : Text} (ends : c.isLineEnd = true) (feeds : FeedsOnly (c :: rest)) (n : Nat)
    : numberedFrom n (line ++ c :: rest)
      = (statements line).map (n, ·) ++ numberedFrom (lineAfter n c) rest := by
  rcases feeds.1 ends with rfl | ⟨rfl, next⟩
  · rw [numberedFrom, Text.lines_append_lineFeed single]
    simp [numberedFrom, lineAfter]
  · cases rest with
    | nil => cases next
    | cons second others =>
        obtain rfl := Option.some.inj next
        have empty := Text.lines_append_lineFeed Text.onOneLine_nil others
        have nothing : statements [] = [] := rfl
        rw [List.nil_append] at empty
        rw [numberedFrom, Text.lines_append_return single, numberedFrom, empty]
        have same : lineAfter n CodePoint.carriageReturn = n := rfl
        simp [same, nothing]

/-- The statements of a line have its number. -/
theorem Numbered.line {number : Nat → Nat} {n : Nat} {line back : List (CodePoint × Nat)}
    (numbered : Numbered number n (line ++ back)) (single : Text.OnOneLine (line.map Prod.fst))
    : ((segments none line).filterMap statement?).map (fun begun => (number begun.1, begun.2))
      = (Script.statements (line.map Prod.fst)).map (n, ·) := by
  rw [← map_snd_statements single, List.map_map]
  refine List.map_congr_left fun begun member => ?_
  obtain ⟨i, statement⟩ := begun
  obtain ⟨segment, isSegment, found⟩ := List.mem_filterMap.mp member
  obtain ⟨c, inside, -, -⟩ := head?_of_statement? found
  have place := (flatten_segments none line).subset (List.mem_flatten.mpr ⟨_, isSegment, inside⟩)
  obtain ⟨before, behind, rfl⟩ := List.append_of_mem place
  have stays := single c (List.mem_map.mpr ⟨_, place, rfl⟩)
  have same := numbered before c i (behind ++ back) (by simp) stays
  rw [count_lineFeed fun d member => single d (by simp [List.mem_map.mp member]), Nat.add_zero]
    at same
  rw [same]
  rfl

/-- Statements are numbered by the lines that they begin on, by list induction. -/
theorem Numbered.statements {number : Nat → Nat} (rest : List (CodePoint × Nat))
    : ∀ (line : List (CodePoint × Nat)) (n : Nat),
        Text.OnOneLine (line.map Prod.fst)
          → FeedsOnly (rest.map Prod.fst)
          → Numbered number n (line ++ rest)
          → numberedFrom n ((line ++ rest).map Prod.fst)
            = ((segments none (line ++ rest)).filterMap statement?).map
                fun begun => (number begun.1, begun.2) := by
  induction rest with
  | nil =>
      intro line n single _ numbered
      have same := numbered.line single
      rw [List.append_nil, numberedFrom_line single, same]
  | cons place rest ih =>
      intro line n single feeds numbered
      cases ends : place.1.isLineEnd with
      | true =>
          have later := ih [] (lineAfter n place.1) Text.onOneLine_nil feeds.2
            (numbered.behind single)
          rw [List.map_append, List.map_cons, numberedFrom_append single ends feeds,
            segments_append ends, List.filterMap_append, List.map_append, numbered.line single]
          exact congrArg _ later
      | false =>
          have longer : line ++ place :: rest = (line ++ [place]) ++ rest := by simp
          rw [longer] at numbered ⊢
          refine ih (line ++ [place]) n ?_ feeds.2 numbered
          rw [List.map_append]
          exact single.concat ends

/-- The statements of a text without its comments are numbered by the lines that they begin on in
the text.
-/
theorem numberedStatements_strip {t u : Text} (feeds : FeedsOnly t) (left : strip t = .ok u)
    : numberedStatements u
      = (statementsAt t).map fun begun => (lineAt t begun.1, begun.2) := by
  have numbered : Numbered (lineAt t) 1 (places t) := by
    intro front c i back form stays
    obtain ⟨here, same⟩ := places_eq_append form
    rw [lineAt_eq feeds here stays, same]
  have feedsLeft : FeedsOnly ((places t).map Prod.fst) := by
    rw [map_fst_places left, ← map_fst_roles .code u, roles_strip left]
    rw [← map_fst_roles .code t] at feeds
    exact feedsOnly_left feeds
  have whole := Numbered.statements (places t) [] 1 Text.onOneLine_nil feedsLeft numbered
  rw [List.nil_append, map_fst_places left] at whole
  exact whole

/-- A statement begins with the code point that stands at its place in the text. -/
theorem getElem?_of_statementsAt {t : Text} {i : Nat} {statement : Text}
    (begins : (i, statement) ∈ statementsAt t)
    : ∃ c, t[i]? = some c ∧ statement.head? = some c := by
  obtain ⟨segment, isSegment, found⟩ := List.mem_filterMap.mp begins
  obtain ⟨c, inside, -, head⟩ := head?_of_statement? found
  have place := (flatten_segments none (places t)).subset
    (List.mem_flatten.mpr ⟨_, isSegment, inside⟩)
  obtain ⟨before, behind, form⟩ := List.append_of_mem place
  exact ⟨c, (places_eq_append form).1, head⟩

end Recommender.Script
