import Mathlib
import Triage.Proofs.Occurrence
import Triage.Proofs.PredicateFields

/-!
# Decoding queries

A query determines what was asked for, up to empty values, as long as no label holds a quote and no login
a blank. The key of a clause ends at the first colon. Behind the key of a label the argument ends at the
next quote, and behind another key at the next blank. A reader that goes by this gives the clauses of a
query back, and the clauses of a field determine its value.
-/

namespace Triage

namespace Clause

/-- What stands in front of a clause's colon. -/
def key : Clause → String
  | repository _ => "repo"
  | type _ => "type"
  | state _ => "state"
  | olderThan field _ => field.text
  | label negated _ => sign negated ++ "label"
  | noLabel negated => sign negated ++ "no"
  | author negated _ => sign negated ++ "author"
  | noAssignee => "no"
  | assignee negated _ => sign negated ++ "assignee"
  | commentsAtMost _ => "comments"
  | review _ => "review"
  | reviewedBy _ => "reviewed-by"
  | linked negated _ => sign negated ++ "linked"

/-- What stands behind the colon, without the quotes around a label. -/
def argument : Clause → String
  | repository r => r.fullName
  | type t => t.text
  | state s => s.text
  | olderThan _ timestamp => "<" ++ timestamp
  | label _ name => name
  | noLabel _ => "label"
  | author _ login => login
  | noAssignee => "assignee"
  | assignee _ login => login
  | commentsAtMost n => "<=" ++ toString n
  | review s => s.text
  | reviewedBy login => login
  | linked _ t => t.text

/-- Whether the argument stands between quotes. -/
def isQuoted (key : String) : Bool := key = "label" ∨ key = "-label"

/-- The clause of predicates that has a key and an argument. -/
def ofParts? (key : String) (argument : List Char) : Option Clause :=
  let word := String.ofList argument
  match key with
  | "type" => (IssueType.options.lookup word).map .type
  | "state" => (IssueState.options.lookup word).map .state
  | "created" => some (.olderThan .created (String.ofList (argument.drop 1)))
  | "updated" => some (.olderThan .updated (String.ofList (argument.drop 1)))
  | "label" => some (.label false word)
  | "-label" => some (.label true word)
  | "no" => if word = "label" then some (.noLabel false) else some .noAssignee
  | "-no" => some (.noLabel true)
  | "author" => some (.author false word)
  | "-author" => some (.author true word)
  | "assignee" => some (.assignee false word)
  | "-assignee" => some (.assignee true word)
  | "comments" => (String.ofList (argument.drop 2)).toInt?.map .commentsAtMost
  | "review" => (ReviewState.options.lookup word).map .review
  | "reviewed-by" => some (.reviewedBy word)
  | "linked" => (IssueType.options.lookup word).map (.linked false)
  | "-linked" => (IssueType.options.lookup word).map (.linked true)
  | _ => none

/-- The argument that a text begins with and what follows the blank behind it. -/
def cutArgument? (key : String) (text : List Char) : Option (List Char × List Char) :=
  if isQuoted key then (Text.cut? ['"'] (text.drop 1)).map fun (name, rest) => (name, rest.drop 1)
  else Text.cut? [' '] text

/-- The clause that a text begins with and what follows the blank behind it. -/
def next? (text : List Char) : Option (Clause × List Char) :=
  (Text.cut? [':'] text).bind fun (key, rest) =>
    (cutArgument? (String.ofList key) rest).bind fun (argument, rest) =>
      (ofParts? (String.ofList key) argument).map (·, rest)

/-- A clause of predicates whose argument ends where the reader stops. -/
structure Legible (c : Clause) : Prop where
  notRepository : ∀ r, c ≠ .repository r
  ends : (if isQuoted c.key then '"' else ' ') ∉ c.argument.toList

lemma ofParts?_key {c : Clause} (h : ∀ r, c ≠ .repository r) :
    ofParts? c.key c.argument.toList = some c := by
  cases c with
  | repository r => exact absurd rfl (h r)
  | type t => cases t <;> rfl
  | state s => cases s <;> rfl
  | olderThan field timestamp =>
    cases field <;> simp [ofParts?, key, TimeField.text, argument]
  | label negated name => cases negated <;> simp [ofParts?, key, sign, argument]
  | noLabel negated => cases negated <;> rfl
  | author negated login => cases negated <;> simp [ofParts?, key, sign, argument]
  | noAssignee => rfl
  | assignee negated login => cases negated <;> simp [ofParts?, key, sign, argument]
  | commentsAtMost n =>
    simp [ofParts?, key, argument]
  | review s => cases s <;> rfl
  | reviewedBy login => simp [ofParts?, key, argument]
  | linked negated t => cases negated <;> cases t <;> rfl

lemma colon_not_mem_key (c : Clause) : ':' ∉ c.key.toList := by
  cases c with
  | olderThan field => cases field <;> simp [key, TimeField.text]
  | label negated | noLabel negated | author negated | assignee negated | linked negated =>
    cases negated <;> simp [key, sign]
  | _ => simp [key]

lemma toList_text (c : Clause) : c.text.toList = c.key.toList ++
    ':' :: if isQuoted c.key then '"' :: (c.argument.toList ++ ['"']) else c.argument.toList := by
  cases c with
  | olderThan field => cases field <;> simp [text, key, argument, isQuoted, TimeField.text]
  | label negated | noLabel negated | author negated | assignee negated | linked negated =>
    cases negated <;> simp [text, key, argument, isQuoted, sign]
  | _ => simp [text, key, argument, isQuoted]

lemma eq_label_of_isQuoted {c : Clause} (h : isQuoted c.key = true) :
    ∃ negated name, c = .label negated name := by
  cases c with
  | label negated name => exact ⟨negated, name, rfl⟩
  | olderThan field => cases field <;> simp [isQuoted, key, TimeField.text] at h
  | noLabel negated | author negated | assignee negated | linked negated =>
    cases negated <;> simp [isQuoted, key, sign] at h
  | _ => simp [isQuoted, key] at h

lemma blank_not_mem_argument {c : Clause} (h : Query.Plain c.text.toList) :
    ' ' ∉ c.argument.toList := by
  intro hblank
  refine h.noBlank ?_
  rw [toList_text]
  split_ifs <;> simp [hblank]

lemma cut?_singleton {c : Char} {a : List Char} (h : c ∉ a) (b : List Char) :
    Text.cut? [c] (a ++ c :: b) = some (a, b) :=
  Text.cut?_append (by simp) (by simpa [List.singleton_infix_iff] using h) b

lemma cutArgument?_append {c : Clause} (h : c.Legible) (rest : List Char) :
    cutArgument? c.key ((if isQuoted c.key then '"' :: (c.argument.toList ++ ['"'])
      else c.argument.toList) ++ ' ' :: rest) = some (c.argument.toList, rest) := by
  have hends := h.ends
  unfold cutArgument?
  split_ifs at hends ⊢
  · simp [cut?_singleton hends]
  · exact cut?_singleton hends rest

/-- A clause with a blank behind it is read back, and what follows is left. -/
theorem next?_text {c : Clause} (h : c.Legible) (rest : List Char) :
    next? (c.text.toList ++ ' ' :: rest) = some (c, rest) := by
  have hcut := cut?_singleton c.colon_not_mem_key
  rw [next?, toList_text, List.append_assoc, List.cons_append, hcut, Option.bind_some]
  dsimp only
  rw [String.ofList_toList, cutArgument?_append h, Option.bind_some]
  dsimp only
  rw [ofParts?_key h.notRepository]
  rfl

end Clause

namespace Query

/-- The clauses that a text consists of, each with a blank behind it; there are at most `fuel` of them. -/
def readClauses? : Nat → List Char → Option (List Clause)
  | 0, text => if text = [] then some [] else none
  | fuel + 1, text =>
    if text = [] then some []
    else (Clause.next? text).bind fun (c, rest) => (readClauses? fuel rest).map (c :: ·)

/-- The clauses of a query behind that of the repository. -/
def decode (repository : Repository) (query : String) : Option (List Clause) :=
  (Text.dropLiteral? ((Clause.repository repository).text.toList ++ [' ']) (query.toList ++ [' '])).bind
    fun text => readClauses? text.length text

lemma readClauses?_flatMap {cs : List Clause} (h : ∀ c ∈ cs, c.Legible) {fuel : Nat}
    (hfuel : cs.length ≤ fuel) :
    readClauses? fuel (cs.flatMap fun c => c.text.toList ++ [' ']) = some cs := by
  induction cs generalizing fuel with
  | nil => cases fuel <;> rfl
  | cons c cs ih =>
    obtain ⟨hc, hcs⟩ := List.forall_mem_cons.mp h
    cases fuel with
    | zero => cases hfuel
    | succ fuel =>
      have hne : c.text.toList ++ ' ' :: cs.flatMap (fun c => c.text.toList ++ [' ']) ≠ [] := by simp
      rw [List.flatMap_cons, List.append_assoc, List.singleton_append, readClauses?, if_neg hne,
        Clause.next?_text hc, Option.bind_some]
      dsimp only
      rw [ih hcs (Nat.le_of_succ_le_succ hfuel)]
      rfl

lemma toList_render_append (c : Clause) (cs : List Clause) :
    (render (c :: cs)).toList ++ [' '] =
      (c.text.toList ++ [' ']) ++ cs.flatMap fun c => c.text.toList ++ [' '] := by
  rw [toList_render]
  induction cs generalizing c with
  | nil => simp
  | cons d cs ih =>
    have hrest := ih d
    rw [List.map_cons] at hrest
    rw [List.map_cons, List.map_cons, List.intercalate_cons_cons, List.append_assoc, hrest,
      List.flatMap_cons]

/-- A query is decoded into the clauses that it was made of. -/
theorem decode_render {repository : Repository} {cs : List Clause} (h : ∀ c ∈ cs, c.Legible) :
    decode repository (render (.repository repository :: cs)) = some cs := by
  have hlength : cs.length ≤ (cs.flatMap fun c => c.text.toList ++ [' ']).length := by
    rw [List.length_flatMap]
    exact (List.length_map _).symm.le.trans (List.length_le_sum_of_one_le _ (by simp))
  rw [decode, toList_render_append, Text.dropLiteral?_append, Option.bind_some]
  exact readClauses?_flatMap h hlength

/-- Values that predicates ask for and that a reader of their query can tell the ends of. -/
structure Delimited (p : Predicates) : Prop where
  labels : ∀ l ∈ p.labels, '"' ∉ l.toList
  logins : ∀ s ∈ p.logins, ' ' ∉ s.toList

/-- Whether predicates agree on a field. An empty text or list counts as none, and durations are compared
by the timestamps they resolve to. -/
def Agree (now : Moment) (p q : Predicates) : PredicateField → Prop
  | .type => p.type = q.type
  | .state => p.state = q.state
  | .created => deadline? now p.created = deadline? now q.created
  | .updated => deadline? now p.updated = deadline? now q.updated
  | .label => p.label.getD [] = q.label.getD []
  | .noLabel => p.noLabel.getD [] = q.noLabel.getD []
  | .author => p.author.getD "" = q.author.getD ""
  | .notAuthor => p.notAuthor.getD "" = q.notAuthor.getD ""
  | .assignee => p.assignee.getD "" = q.assignee.getD ""
  | .notAssigned => p.notAssigned.getD "" = q.notAssigned.getD ""
  | .comments => p.comments = q.comments
  | .review => p.review = q.review
  | .reviewedBy => p.reviewedBy.getD "" = q.reviewedBy.getD ""
  | .linked => p.linked = q.linked
  | .noLinked => p.noLinked = q.noLinked

variable {p q : Predicates} {repository : Repository} {now : Moment} {cs ds : List Clause}

section Agreement

lemma made_eq_iff {α : Type} {make : α → Clause} (hmake : Function.Injective make) {v w : Option α} :
    (v.map make).toList = (w.map make).toList ↔ v = w := by
  cases v <;> cases w <;> simp [hmake.eq_iff]

lemma textClause_eq_iff {make : String → Clause} (hmake : Function.Injective make)
    {v w : Option String} : textClause make v = textClause make w ↔ v.getD "" = w.getD "" := by
  have htext (v : Option String) :
      textClause make v = if v.getD "" = "" then [] else [make (v.getD "")] := by
    cases v <;> rfl
  rw [htext, htext]
  split_ifs with hv hw hw
  · simp [hv, hw]
  · simp [hv, Ne.symm hw]
  · simp [hv, hw]
  · simp [hmake.eq_iff]

lemma assigneeClause_injective : Function.Injective assigneeClause := by
  intro a b h
  unfold assigneeClause at h
  split_ifs at h with ha hb
  · rw [ha, hb]
  · exact (Clause.assignee.inj h).2

lemma labelClauses_injective (negated : Bool) : Function.Injective (labelClauses negated) := by
  refine List.map_injective_iff.mpr fun a b h => ?_
  split_ifs at h with ha hb
  · rw [ha, hb]
  · exact (Clause.label.inj h).2

/-- A field's clauses are the same exactly where predicates agree on it. -/
lemma fieldClauses_eq_iff {f : PredicateField} (hcs : fieldClauses p now f = .ok cs)
    (hds : fieldClauses q now f = .ok ds) : cs = ds ↔ Agree now p q f := by
  cases f with
  | type | state | review | linked | noLinked =>
    obtain rfl := Except.ok.inj hcs
    obtain rfl := Except.ok.inj hds
    exact made_eq_iff fun a b h => by injection h
  | created | updated =>
    rw [timeClause_ok hcs, timeClause_ok hds]
    exact made_eq_iff fun a b h => by injection h
  | comments =>
    rw [commentsClause_ok hcs, commentsClause_ok hds]
    exact made_eq_iff fun a b h => by injection h
  | label | noLabel =>
    obtain rfl := Except.ok.inj hcs
    obtain rfl := Except.ok.inj hds
    exact (labelClauses_injective _).eq_iff
  | assignee =>
    obtain rfl := Except.ok.inj hcs
    obtain rfl := Except.ok.inj hds
    exact textClause_eq_iff assigneeClause_injective
  | author | notAuthor | notAssigned | reviewedBy =>
    obtain rfl := Except.ok.inj hcs
    obtain rfl := Except.ok.inj hds
    exact textClause_eq_iff fun a b h => by injection h

lemma clauses_eq_iff (hcs : clauses p repository now = .ok (.repository repository :: cs))
    (hds : clauses q repository now = .ok (.repository repository :: ds)) :
    cs = ds ↔ ∀ f, Agree now p q f := by
  constructor
  · rintro rfl f
    exact (fieldClauses_eq_iff (fieldClauses_ok hcs f) (fieldClauses_ok hds f)).mp rfl
  · intro h
    obtain ⟨parts, hparts, hcs⟩ := clauses_eq_flatMap hcs
    obtain ⟨parts', hparts', hds⟩ := clauses_eq_flatMap hds
    have hsame : parts = parts' :=
      funext fun f => (fieldClauses_eq_iff (hparts f) (hparts' f)).mpr (h f)
    rw [(List.cons.inj hcs).2, (List.cons.inj hds).2, hsame]

end Agreement

/-- What predicates ask for is legible when their values are delimited. -/
lemma Asks.legible {c : Clause} (h : Asks p c) (hp : Delimited p) : c.Legible := by
  refine ⟨h.notRepository, ?_⟩
  by_cases hquoted : Clause.isQuoted c.key = true
  · obtain ⟨negated, name, rfl⟩ := Clause.eq_label_of_isQuoted hquoted
    rw [if_pos hquoted]
    exact hp.labels name (h.value _ rfl)
  · rw [if_neg hquoted]
    cases c with
    | label negated name => cases negated <;> exact absurd rfl hquoted
    | author negated login | assignee negated login | reviewedBy login =>
      exact hp.logins login (h.value _ rfl)
    | _ => exact Clause.blank_not_mem_argument (Clause.plain_text h.ownPlain rfl)

lemma decode_compile {query : String} (h : compile p repository now = .ok query) (hp : Delimited p) :
    ∃ cs, clauses p repository now = .ok (.repository repository :: cs) ∧
      query = render (.repository repository :: cs) ∧ decode repository query = some cs := by
  cases hall : clauses p repository now with
  | error e =>
    rw [compile, hall] at h
    cases h
  | ok all =>
    rw [compile, hall] at h
    obtain rfl := Except.ok.inj h
    obtain ⟨cs, rfl, -, hasks⟩ := clauses_ok hall
    exact ⟨cs, rfl, rfl, decode_render fun c hc => (hasks c hc).legible hp⟩

/-- Predicates that ask for labels without quotes and logins without blanks have the same query exactly
when they agree on every field. -/
theorem compile_eq_iff {query query' : String} (hp : Delimited p) (hq : Delimited q)
    (hquery : compile p repository now = .ok query) (hquery' : compile q repository now = .ok query') :
    query = query' ↔ ∀ f, Agree now p q f := by
  obtain ⟨cs, hcs, hrender, hdecode⟩ := decode_compile hquery hp
  obtain ⟨ds, hds, hrender', hdecode'⟩ := decode_compile hquery' hq
  rw [← clauses_eq_iff hcs hds]
  constructor
  · rintro rfl
    exact Option.some.inj (hdecode.symm.trans hdecode')
  · rintro rfl
    rw [hrender, hrender']

/-- The first of February in year 1. -/
def secondMonth : Moment := ⟨31 * Moment.dayTicks, some 0, by decide⟩

/-- Two ways to ask for issues that nobody touched for a week, and nothing else about them. -/
def weekTask : Predicates :=
  { updated := some "1 week", label := some ["help wanted", "no"], author := some "" }

def daysTask : Predicates :=
  { updated := some "7 days", label := some ["help wanted", "no"], noLabel := some [] }

theorem compile_eq_of_weekTask :
    ∃ query, compile weekTask ⟨"octo", "widgets"⟩ secondMonth = .ok query ∧
      compile daysTask ⟨"octo", "widgets"⟩ secondMonth = .ok query ∧
      ∀ f, Agree secondMonth weekTask daysTask f := by
  have hweek : Delimited weekTask := ⟨by decide, by decide⟩
  have hdays : Delimited daysTask := ⟨by decide, by decide⟩
  have hquery : compile weekTask ⟨"octo", "widgets"⟩ secondMonth =
      .ok "repo:octo/widgets updated:<1-01-25T00:00:00Z label:\"help wanted\" no:label" := rfl
  have hquery' : compile daysTask ⟨"octo", "widgets"⟩ secondMonth =
      .ok "repo:octo/widgets updated:<1-01-25T00:00:00Z label:\"help wanted\" no:label" := rfl
  exact ⟨_, hquery, hquery', (compile_eq_iff hweek hdays hquery hquery').mp rfl⟩

end Query

end Triage
