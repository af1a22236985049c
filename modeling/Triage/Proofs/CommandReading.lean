import Mathlib
import Triage.Proofs.CommandLines
import Triage.Proofs.TextRuns

/-!
# Reading commands

A comment is cut into lines at line feeds alone, and the first line that begins with a slash and a word
character is its command: the name is the longest run of word characters, and the arguments are what the
rest of this line holds between its blank ends. So a command that is written out is read back, whatever
lines stand around it.
-/

namespace Triage

namespace Text

/-- The pieces between separators are those of the library's splitting. -/
lemma pieces_eq_splitOn (separator : Char) (cs : List Char) : pieces separator cs = cs.splitOn separator := by
  induction cs with
  | nil => rfl
  | cons c cs ih =>
    rw [pieces, List.splitOn_cons_eq_if_modifyHead, ih]
    by_cases hc : c = separator
    · simp [hc]
    · obtain ⟨piece, later, hpieces⟩ := List.exists_cons_of_ne_nil (List.splitOn_ne_nil separator cs)
      simp [hc, hpieces]

/-- Words in their order with runs of spaces between them. -/
inductive Spaced : List (List Char) → List Char → Prop where
  | nil : Spaced [] []
  | word (w : List Char) : Spaced [w] w
  | cons (w : List Char) (more : Nat) {next : List Char} {words : List (List Char)} {cs : List Char} :
      Spaced (next :: words) cs → Spaced (w :: next :: words) (w ++ ' ' :: (List.replicate more ' ' ++ cs))

/-- A word is not empty and has no blanks in it. -/
def IsWord (w : List Char) : Prop := w ≠ [] ∧ ∀ c ∈ w, isBlank c = false

variable {ws : List (List Char)} {cs : List Char}

lemma isBlank_of_mem_spaces {c : Char} {n : Nat} (hc : c ∈ List.replicate n ' ') : isBlank c = true := by
  rw [List.eq_of_mem_replicate hc]
  rfl

lemma Spaced.words_eq (h : Spaced ws cs) (hws : ∀ w ∈ ws, IsWord w) : words cs = ws := by
  induction h with
  | nil => rfl
  | word w =>
    obtain ⟨hne, hblank⟩ := hws w List.mem_cons_self
    exact fieldsBy_of_forall hne hblank
  | cons w more hrest ih =>
    rw [List.forall_mem_cons] at hws
    obtain ⟨⟨hne, hblank⟩, hws⟩ := hws
    rw [words, fieldsBy_append_cons (by rfl), fieldsBy_of_forall hne hblank,
      fieldsBy_append_left (fun _ => isBlank_of_mem_spaces), ← words, ih hws, List.singleton_append]

lemma Spaced.notMem (h : Spaced ws cs) {c : Char} (hspace : c ≠ ' ') (hws : ∀ w ∈ ws, c ∉ w) : c ∉ cs := by
  induction h with
  | nil => exact List.not_mem_nil
  | word w => exact hws w List.mem_cons_self
  | cons w more hrest ih =>
    rw [List.forall_mem_cons] at hws
    simp [hws.1, hspace, ih hws.2]

end Text

namespace Command

/-- The command of a line: behind a slash its name, which is the longest run of word characters, and then
its arguments without the blanks at their ends. -/
structure OnLine (line : List Char) (c : Command) : Prop where
  cut : ∃ rest, line = '/' :: (c.name.toList ++ rest) ∧ Text.Stops Text.isWordChar rest ∧
    Text.Trimmed Text.isBlank rest c.arguments.toList
  name_ne : c.name ≠ ""
  isWordChar : ∀ d ∈ c.name.toList, Text.isWordChar d = true

lemma ofLine?_run {name rest : List Char} (hne : name ≠ []) (hname : ∀ c ∈ name, Text.isWordChar c = true)
    (hrest : Text.Stops Text.isWordChar rest) :
    ofLine? ('/' :: (name ++ rest)) = some ⟨String.ofList name, String.ofList (Text.trim rest)⟩ := by
  rw [ofLine?, Text.takeWhile_eq_of_stops hname hrest, Text.dropWhile_eq_of_stops hname hrest]
  exact if_neg hne

lemma onLine_of_ofLine? {line : List Char} {c : Command} (h : ofLine? line = some c) : OnLine line c := by
  cases line with
  | nil => cases h
  | cons slash behind =>
    by_cases hslash : slash = '/'
    · subst hslash
      rw [ofLine?] at h
      simp only [Option.ite_none_left_eq_some, Option.some.injEq] at h
      obtain ⟨hne, rfl⟩ := h
      have hcut := List.takeWhile_append_dropWhile (p := Text.isWordChar) (l := behind)
      refine ⟨⟨behind.dropWhile Text.isWordChar, ?_, ?_, ?_⟩, ?_, ?_⟩
      · rw [String.toList_ofList, hcut]
      · exact Text.stops_dropWhile Text.isWordChar behind
      · rw [String.toList_ofList]
        exact Text.trimmed_trimBy Text.isBlank _
      · simpa using hne
      · rw [String.toList_ofList]
        exact Text.forall_mem_takeWhile Text.isWordChar behind
    · simp [ofLine?, hslash] at h

/-- A line has at most one command, for the run of word characters has one longest part. -/
theorem ofLine?_eq_some_iff {line : List Char} {c : Command} : ofLine? line = some c ↔ OnLine line c := by
  constructor
  · exact onLine_of_ofLine?
  · rintro ⟨⟨rest, rfl, hrest, htrimmed⟩, hne, hname⟩
    have hne' : c.name.toList ≠ [] := by simpa using hne
    rw [ofLine?_run hne' hname hrest, Text.trim, Text.trimBy_eq_iff.mpr htrimmed, String.ofList_toList,
      String.ofList_toList]

section Bodies

variable {body : String}

lemma parse?_eq_none_iff :
    parse? (some body) = none ↔ ∀ line ∈ body.toList.splitOn '\n', ¬Opens line := by
  simp only [parse?, Option.bind_some, find?, List.findSome?_eq_none_iff, ofLine?_eq_none_iff,
    Text.pieces_eq_splitOn]

lemma parse?_eq_some_iff {c : Command} : parse? (some body) = some c ↔
    ∃ before line later, body.toList.splitOn '\n' = before ++ line :: later ∧ (∀ l ∈ before, ¬Opens l) ∧
      OnLine line c := by
  simp only [parse?, Option.bind_some, find?, List.findSome?_eq_some_iff, ofLine?_eq_none_iff,
    ofLine?_eq_some_iff, Text.pieces_eq_splitOn]
  constructor
  · rintro ⟨before, line, later, hlines, hline, hbefore⟩
    exact ⟨before, line, later, hlines, hbefore, hline⟩
  · rintro ⟨before, line, later, hlines, hbefore, hline⟩
    exact ⟨before, line, later, hlines, hline, hbefore⟩

end Bodies

section Written

variable {name text : List Char} {words before later : List (List Char)}

/-- A line with a command as one writes it, with the text of its arguments behind one space. -/
def written (name text : List Char) : List Char := '/' :: (name ++ ' ' :: text)

/-- Lines that may stand around a command, none of those before it being one. -/
structure Surrounds (before later : List (List Char)) : Prop where
  lines : ∀ l ∈ before ++ later, '\n' ∉ l
  before : ∀ l ∈ before, ¬Opens l

lemma ofLine?_written (hne : name ≠ []) (hname : ∀ c ∈ name, Text.isWordChar c = true) :
    ofLine? (written name text) = some ⟨String.ofList name, String.ofList (Text.trim (' ' :: text))⟩ :=
  ofLine?_run hne hname (Text.stops_cons (by rfl))

lemma notMem_written (hname : ∀ c ∈ name, Text.isWordChar c = true) (hwords : ∀ w ∈ words, Text.IsWord w)
    (htext : Text.Spaced words text) : '\n' ∉ written name text := by
  have hfront : '\n' ∉ name := fun h => absurd (hname _ h) (by decide)
  have hback : '\n' ∉ text :=
    htext.notMem (by decide) fun w hw h => absurd ((hwords w hw).2 _ h) (by decide)
  simp [written, hfront, hback]

lemma words_trim (hwords : ∀ w ∈ words, Text.IsWord w) (htext : Text.Spaced words text) :
    Text.words (Text.trim (' ' :: text)) = words := by
  have hspace : ∀ c ∈ List.replicate 1 ' ', Text.isBlank c = true := fun _ => Text.isBlank_of_mem_spaces
  calc Text.words (Text.trim (' ' :: text))
    _ = Text.words (' ' :: text) := Text.fieldsBy_trimBy Text.isBlank _
    _ = Text.words text := Text.fieldsBy_append_left hspace text
    _ = words := htext.words_eq hwords

/-- Lines put together with line feeds are the lines of the whole. -/
lemma splitOn_surrounded {line : List Char} (h : Surrounds before later) (hline : '\n' ∉ line) :
    (['\n'].intercalate (before ++ line :: later)).splitOn '\n' = before ++ line :: later := by
  refine List.splitOn_intercalate '\n' ?_ (by simp)
  intro l hl
  rcases List.mem_append.mp hl with hl | hl
  · exact h.lines l (List.mem_append_left later hl)
  · rcases List.mem_cons.mp hl with rfl | hl
    · exact hline
    · exact h.lines l (List.mem_append_right before hl)

lemma parse?_written (h : Surrounds before later) (hne : name ≠ [])
    (hname : ∀ c ∈ name, Text.isWordChar c = true) (hwords : ∀ w ∈ words, Text.IsWord w)
    (htext : Text.Spaced words text) :
    ∃ c, parse? (some (String.ofList (['\n'].intercalate (before ++ written name text :: later)))) = some c ∧
      c.name = String.ofList name ∧ c.words = words.map String.ofList := by
  refine ⟨⟨String.ofList name, String.ofList (Text.trim (' ' :: text))⟩, ?_, rfl, ?_⟩
  · refine parse?_eq_some_iff.mpr ⟨before, written name text, later, ?_, h.before, ?_⟩
    · rw [String.toList_ofList, splitOn_surrounded h (notMem_written hname hwords htext)]
    · exact onLine_of_ofLine? (ofLine?_written hne hname)
  · rw [Command.words, String.toList_ofList, words_trim hwords htext]

/-- A comment has no command when none of its lines opens one. Otherwise its command is the one on the first
such line, with nothing of the lines around it, and so a command that is written out among lines that come
before it without being commands, and any that follow, is read back with its name and its words. -/
theorem parse?_first_line :
    parse? none = none ∧
      (∀ body : String,
        (parse? (some body) = none ↔ ∀ line ∈ body.toList.splitOn '\n', ¬Opens line) ∧
        ∀ c, parse? (some body) = some c ↔
          ∃ before line later, body.toList.splitOn '\n' = before ++ line :: later ∧
            (∀ l ∈ before, ¬Opens l) ∧ OnLine line c) ∧
      ∀ (before later : List (List Char)) (name text : List Char) (words : List (List Char)),
        Surrounds before later → name ≠ [] → (∀ c ∈ name, Text.isWordChar c = true) →
        (∀ w ∈ words, Text.IsWord w) → Text.Spaced words text →
        ∃ c, parse? (some (String.ofList (['\n'].intercalate (before ++ written name text :: later)))) = some c ∧
          c.name = String.ofList name ∧ c.words = words.map String.ofList := by
  refine ⟨rfl, ?_, ?_⟩
  · intro body
    exact ⟨parse?_eq_none_iff, fun c => parse?_eq_some_iff⟩
  · intro before later name text words h hne hname hwords htext
    exact parse?_written h hne hname hwords htext

/-- Slashes within a line or before a space are passed over, and what comes after the command is left out. -/
theorem parse?_first_line_mark :
    ∃ c, parse? (some "see /mark a\n/ mark b\n/mark done   late\n/mark other") = some c ∧ c.name = "mark" ∧
      c.words = ["done", "late"] := by
  have hbefore : Surrounds ["see /mark a".toList, "/ mark b".toList] ["/mark other".toList] := by
    refine ⟨by decide, ?_⟩
    intro l hl
    rw [← ofLine?_eq_none_iff]
    rcases List.mem_pair.mp hl with rfl | rfl <;> rfl
  have hname : ∀ c ∈ "mark".toList, Text.isWordChar c = true := List.all_eq_true.mp (by decide)
  have hwords : ∀ w ∈ ["done".toList, "late".toList], Text.IsWord w := by
    intro w hw
    have hletters : w ≠ [] ∧ w.all Char.isAlpha = true := by
      rcases List.mem_pair.mp hw with rfl | rfl <;> decide
    exact ⟨hletters.1, fun c hc => Text.isBlank_of_isAlpha (List.all_eq_true.mp hletters.2 c hc)⟩
  have htext : Text.Spaced ["done".toList, "late".toList] "done   late".toList :=
    .cons "done".toList 2 (.word "late".toList)
  have hread := parse?_first_line.2.2 _ _ _ _ _ hbefore (by decide) hname hwords htext
  have hbody : (['\n'].intercalate (["see /mark a".toList, "/ mark b".toList] ++
      written "mark".toList "done   late".toList :: ["/mark other".toList])) =
      "see /mark a\n/ mark b\n/mark done   late\n/mark other".toList := by decide
  rwa [hbody, String.ofList_toList, String.ofList_toList] at hread

end Written

end Command

end Triage
