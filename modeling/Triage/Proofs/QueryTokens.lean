import Mathlib
import Triage.Query.Clause

/-!
# Cutting queries into their clauses

Labels stand between quotes in a query and logins without them, and neither is changed on the way. So a
query falls into its clauses at the blanks outside quotes unless a label or a login brings a quote, or a
login a blank, that moves the cuts. What moves them is described here exactly.
-/

namespace Triage.Query

/-- The pieces of a text that is cut at each blank outside quotes. -/
def tokens (quoted : Bool) : List Char → List (List Char)
  | [] => [[]]
  | c :: cs =>
    if c = ' ' ∧ !quoted then [] :: tokens quoted cs
    else (tokens (if c = '"' then !quoted else quoted) cs).modifyHead (c :: ·)

/-- Whether a quote is open behind a text; none when the text has a blank outside quotes. -/
def quoteAfter (quoted : Bool) : List Char → Option Bool
  | [] => some quoted
  | c :: cs =>
    if c = ' ' ∧ !quoted then none else quoteAfter (if c = '"' then !quoted else quoted) cs

/-- Texts that do not disturb how the others are cut: none has a blank outside quotes, and only the last
one may leave a quote open. -/
def Separates : List (Option Bool) → Prop
  | [] => True
  | [last] => last.isSome
  | ending :: next :: later => ending = some false ∧ Separates (next :: later)

/-- A text with neither blanks nor quotes. -/
structure Plain (cs : List Char) : Prop where
  noBlank : ' ' ∉ cs
  noQuote : '"' ∉ cs

instance (cs : List Char) : Decidable (Plain cs) :=
  decidable_of_iff (' ' ∉ cs ∧ '"' ∉ cs) ⟨fun h => ⟨h.1, h.2⟩, fun h => ⟨h.1, h.2⟩⟩

section Cuts

variable {quoted : Bool} {cs ds rest : List Char}

lemma quoteAfter_append (cs ds : List Char) :
    quoteAfter quoted (cs ++ ds) = (quoteAfter quoted cs).bind (quoteAfter · ds) := by
  induction cs generalizing quoted with
  | nil => rfl
  | cons c cs ih =>
    rw [List.cons_append, quoteAfter, quoteAfter]
    split_ifs
    · rfl
    · exact ih
    · exact ih

lemma Plain.quoteAfter (h : Plain cs) : quoteAfter quoted cs = some quoted := by
  induction cs with
  | nil => rfl
  | cons c cs ih =>
    have hblank : ¬(c = ' ' ∧ !quoted) := fun hc => h.noBlank (hc.1 ▸ List.mem_cons_self)
    have hquote : c ≠ '"' := fun hc => h.noQuote (hc ▸ List.mem_cons_self)
    rw [Query.quoteAfter, if_neg hblank, if_neg hquote]
    exact ih ⟨fun hm => h.noBlank (List.mem_cons_of_mem _ hm),
      fun hm => h.noQuote (List.mem_cons_of_mem _ hm)⟩

lemma Plain.append (hcs : Plain cs) (hds : Plain ds) : Plain (cs ++ ds) where
  noBlank := by simp [hcs.noBlank, hds.noBlank]
  noQuote := by simp [hcs.noQuote, hds.noQuote]

lemma Plain.cons {c : Char} (hblank : c ≠ ' ') (hquote : c ≠ '"') (hcs : Plain cs) :
    Plain (c :: cs) where
  noBlank := by simp [hblank.symm, hcs.noBlank]
  noQuote := by simp [hquote.symm, hcs.noQuote]

/-- Between quotes, a text without them is read on to its end. -/
lemma quoteAfter_of_open (h : '"' ∉ cs) : quoteAfter true cs = some true := by
  induction cs with
  | nil => rfl
  | cons c cs ih =>
    have hquote : c ≠ '"' := fun hc => h (hc ▸ List.mem_cons_self)
    rw [quoteAfter, if_neg (by simp), if_neg hquote]
    exact ih fun hm => h (List.mem_cons_of_mem _ hm)

/-- A text before a blank is the first piece exactly when it leaves no quote open. -/
lemma head?_tokens_append :
    (tokens quoted (cs ++ ' ' :: rest)).head? = some cs ↔ quoteAfter quoted cs = some false := by
  induction cs generalizing quoted with
  | nil => cases quoted <;> simp [tokens, quoteAfter]
  | cons c cs ih =>
    rw [List.cons_append, tokens, quoteAfter]
    split_ifs with hcut
    · simp
    all_goals simp only [List.head?_modifyHead, Option.map_eq_some_iff, List.cons.injEq, true_and,
        exists_eq_right, ih]

lemma tokens_append (h : quoteAfter quoted cs = some false) :
    tokens quoted (cs ++ ' ' :: rest) = cs :: tokens false rest := by
  induction cs generalizing quoted with
  | nil =>
    obtain rfl : quoted = false := Option.some.inj h
    simp [tokens]
  | cons c cs ih =>
    rw [quoteAfter] at h
    rw [List.cons_append, tokens]
    split_ifs at h ⊢ <;> simp [ih h]

/-- A text is one piece exactly when it has no blank outside quotes. -/
lemma tokens_eq_singleton_iff : tokens quoted cs = [cs] ↔ (quoteAfter quoted cs).isSome := by
  induction cs generalizing quoted with
  | nil => simp [tokens, quoteAfter]
  | cons c cs ih =>
    have hhead {q : Bool} :
        (tokens q cs).modifyHead (c :: ·) = [c :: cs] ↔ tokens q cs = [cs] := by
      cases tokens q cs <;> simp
    rw [tokens, quoteAfter]
    split_ifs
    · simp
    · exact hhead.trans ih
    · exact hhead.trans ih

/-- Texts with single blanks between them are cut into themselves exactly when they separate. -/
lemma tokens_intercalate_iff {texts : List (List Char)} (hne : texts ≠ []) :
    tokens false ([' '].intercalate texts) = texts ↔ Separates (texts.map (quoteAfter false)) := by
  induction texts with
  | nil => exact absurd rfl hne
  | cons cs texts ih =>
    cases texts with
    | nil =>
      rw [List.intercalate_singleton]
      exact tokens_eq_singleton_iff
    | cons ds texts =>
      rw [List.intercalate_cons_cons, List.map_cons, List.map_cons, Separates, ← List.map_cons,
        ← ih (List.cons_ne_nil _ _), List.append_assoc, List.singleton_append]
      constructor
      · intro hcut
        have hend := head?_tokens_append.mp ((congrArg List.head? hcut).trans rfl)
        exact ⟨hend, (List.cons.inj ((tokens_append hend).symm.trans hcut)).2⟩
      · rintro ⟨hend, hrest⟩
        rw [tokens_append hend, hrest]

end Cuts

/-! ## Numbers and timestamps -/

lemma plain_ofNat (n : Nat) : Plain (Text.ofNat n) where
  noBlank hc := absurd (Text.isDigit_of_mem_ofNat hc) (by decide)
  noQuote hc := absurd (Text.isDigit_of_mem_ofNat hc) (by decide)

lemma plain_padded (width n : Nat) : Plain (Text.padded width n) := by
  refine Plain.append ?_ (plain_ofNat n)
  constructor <;> exact fun hc => absurd (List.eq_of_mem_replicate hc) (by decide)

lemma plain_toString (n : Int) : Plain (toString n).toList := by
  rw [Text.toList_toString]
  cases n with
  | ofNat n => exact plain_ofNat n
  | negSucc n =>
    have hsign : Plain ['-'] := by decide
    exact hsign.append (plain_ofNat (n + 1))

lemma plain_wallText (m : Moment) : Plain m.wallText := by
  have hclock : Plain m.clockText :=
    .append (.append (plain_padded _ _) (.cons (by decide) (by decide) (plain_padded _ _)))
      (.cons (by decide) (by decide) (plain_padded _ _))
  have hdate : Plain (m.date.text 1) :=
    .append (.append (plain_padded _ _) (.cons (by decide) (by decide) (plain_padded _ _)))
      (.cons (by decide) (by decide) (plain_padded _ _))
  exact .append (.append hdate (.cons (by decide) (by decide) hclock)) (by decide)

lemma olderThan_ok {field : TimeField} {duration : String} {now : Moment} {c : Clause}
    (h : olderThan field duration now = .ok c) : ∃ t, c = .olderThan field t ∧ Plain t.toList := by
  unfold olderThan at h
  split at h
  · cases h
  · cases h
  · split at h
    · rename_i t ht
      obtain ⟨m, -, ht⟩ := Option.bind_eq_some_iff.mp ht
      obtain ⟨u, -, rfl⟩ := Option.map_eq_some_iff.mp ht
      refine ⟨_, (Except.ok.inj h).symm, ?_⟩
      rw [String.toList_ofList]
      exact plain_wallText u
    · cases h

end Triage.Query

namespace Triage.Clause

open Query (Plain quoteAfter quoteAfter_append)

/-- The label or login that a clause holds, and whether it stands between quotes. -/
def value? : Clause → Option (Bool × String)
  | .label _ name => some (true, name)
  | .author _ login | .assignee _ login | .reviewedBy login => some (false, login)
  | _ => none

/-- Whether a clause leaves a quote open; none when its label or login has a blank outside quotes. -/
def ending (c : Clause) : Option Bool :=
  c.value?.elim (some false) fun v => (quoteAfter v.1 v.2.toList).map (· != v.1)

/-- Whether what a clause writes of its own is plain, apart from labels and logins. -/
def IsOwnPlain : Clause → Prop
  | .repository r => Plain r.fullName.toList
  | .olderThan _ timestamp => Plain timestamp.toList
  | _ => True

lemma plain_append {a b : String} (ha : Plain a.toList) (hb : Plain b.toList) :
    Plain (a ++ b).toList := by
  rw [String.toList_append]
  exact ha.append hb

lemma plain_sign (negated : Bool) : Plain (sign negated).toList := by
  cases negated <;> decide

lemma plain_typeText (t : IssueType) : Plain t.text.toList := by
  cases t <;> decide

lemma plain_text {c : Clause} (hown : c.IsOwnPlain) (hvalue : c.value? = none) :
    Plain c.text.toList := by
  cases c with
  | repository r => exact plain_append (by decide) hown
  | type t => exact plain_append (by decide) (plain_typeText t)
  | state s => exact plain_append (by decide) (by cases s <;> decide)
  | olderThan field timestamp =>
    exact plain_append (plain_append (by cases field <;> decide) (by decide)) hown
  | noLabel negated => exact plain_append (plain_sign negated) (by decide)
  | noAssignee => decide
  | commentsAtMost n => exact plain_append (by decide) (Query.plain_toString n)
  | review s => exact plain_append (by decide) (by cases s <;> decide)
  | linked negated t =>
    exact plain_append (plain_append (plain_sign negated) (by decide)) (plain_typeText t)
  | label | author | assignee | reviewedBy => cases hvalue

/-- A login is written behind a lead of the clause's own. -/
lemma quoteAfter_login {lead login : String} (h : Plain lead.toList) :
    quoteAfter false (lead ++ login).toList = (quoteAfter false login.toList).map (· != false) := by
  rw [String.toList_append, quoteAfter_append, h.quoteAfter, Option.bind_some]
  cases quoteAfter false login.toList <;> simp

/-- A label is written behind such a lead and between quotes. -/
lemma quoteAfter_label {lead name : String} (h : Plain lead.toList) :
    quoteAfter false (lead ++ "label:\"" ++ name ++ "\"").toList =
      (quoteAfter true name.toList).map (· != true) := by
  have hopen : quoteAfter false "label:\"".toList = some true := by decide
  have hclose (q : Bool) : quoteAfter q "\"".toList = some (q != true) := by cases q <;> decide
  simp only [String.toList_append, quoteAfter_append, h.quoteAfter, hopen, hclose, Option.bind_some]
  exact Option.map_eq_bind.symm

lemma quoteAfter_text {c : Clause} (h : c.IsOwnPlain) : quoteAfter false c.text.toList = c.ending := by
  cases c with
  | label negated name => exact quoteAfter_label (plain_sign negated)
  | author negated login => exact quoteAfter_login (plain_append (plain_sign negated) (by decide))
  | assignee negated login => exact quoteAfter_login (plain_append (plain_sign negated) (by decide))
  | reviewedBy login => exact quoteAfter_login (by decide)
  | repository | type | state | olderThan | noLabel | noAssignee | commentsAtMost | review | linked =>
    exact (plain_text h rfl).quoteAfter

/-- Only the repository's clause is a qualifier of a repository. -/
lemma repo_isPrefix_text {c : Clause} (h : "repo:".toList <+: c.text.toList) :
    ∃ r, c = .repository r := by
  cases c with
  | repository r => exact ⟨r, rfl⟩
  | olderThan field => cases field <;> simp [text, TimeField.text] at h
  | label negated | noLabel negated | author negated | assignee negated | linked negated =>
    cases negated <;> simp [text, sign] at h
  | type | state | noAssignee | commentsAtMost | review | reviewedBy => simp [text] at h

end Triage.Clause

namespace Triage

namespace Predicates

/-- The labels that predicates ask for. -/
def labels (p : Predicates) : List String := p.label.getD [] ++ p.noLabel.getD []

/-- The logins that predicates ask for. -/
def logins (p : Predicates) : List String :=
  [p.author, p.notAuthor, p.assignee, p.notAssigned, p.reviewedBy].reduceOption

/-- How many values predicates have: each one that is there and not the empty text, and each item of a
list. -/
def valueCount (p : Predicates) : Nat :=
  let fixed {α : Type} (v : Option α) := v.toList.length
  let text (v : Option String) := (v.toList.countP (· ≠ ""))
  let items (v : Option (List String)) := (v.getD []).length
  fixed p.type + fixed p.state + text p.created + text p.updated + items p.label + items p.noLabel
    + text p.author + text p.notAuthor + text p.assignee + text p.notAssigned + fixed p.comments
    + fixed p.review + text p.reviewedBy + fixed p.linked + fixed p.noLinked

end Predicates

namespace Query

variable {p : Predicates} {repository : Repository} {now : Moment}

/-- A clause that predicates ask for: the label or login in it, if there is one, is theirs. -/
structure Asks (p : Predicates) (c : Clause) : Prop where
  ownPlain : c.IsOwnPlain
  notRepository : ∀ r, c ≠ .repository r
  value : ∀ v, c.value? = some v → v.2 ∈ if v.1 then p.labels else p.logins

lemma asks_of_fixed {c : Clause} (hown : c.IsOwnPlain) (hrepository : ∀ r, c ≠ .repository r)
    (hvalue : c.value? = none) : Asks p c :=
  ⟨hown, hrepository, fun _ hv => nomatch hvalue.symm.trans hv⟩

/-- Clauses of predicates, with how many there are. -/
def Makes (p : Predicates) (n : Nat) (cs : List Clause) : Prop := cs.length = n ∧ ∀ c ∈ cs, Asks p c

lemma Makes.append {m n : Nat} {cs ds : List Clause} (hcs : Makes p m cs) (hds : Makes p n ds) :
    Makes p (m + n) (cs ++ ds) :=
  ⟨by rw [List.length_append, hcs.1, hds.1], List.forall_mem_append.mpr ⟨hcs.2, hds.2⟩⟩

lemma makes_fixed {α : Type} {make : α → Clause} (v : Option α) (h : ∀ a, Asks p (make a)) :
    Makes p v.toList.length (v.map make).toList := by
  cases v with
  | none => exact ⟨rfl, by simp⟩
  | some a => exact ⟨rfl, by simpa using h a⟩

lemma makes_text {make : String → Clause} {v : Option String} (h : ∀ s, v = some s → Asks p (make s)) :
    Makes p (v.toList.countP (· ≠ "")) (textClause make v) := by
  cases v with
  | none => exact ⟨rfl, by simp [textClause]⟩
  | some s =>
    by_cases hs : s = ""
    · exact ⟨by simp [textClause, hs], by simp [textClause, hs]⟩
    · exact ⟨by simp [textClause, hs], by simpa [textClause, hs] using h s rfl⟩

lemma makes_time {field : TimeField} {v : Option String} {cs : List Clause}
    (h : timeClause field now v = .ok cs) : Makes p (v.toList.countP (· ≠ "")) cs := by
  cases v with
  | none =>
    obtain rfl := Except.ok.inj h
    exact ⟨rfl, by simp⟩
  | some s =>
    by_cases hs : s = ""
    · rw [timeClause, if_pos hs] at h
      obtain rfl := Except.ok.inj h
      exact ⟨by simp [hs], by simp⟩
    · rw [timeClause, if_neg hs] at h
      cases hc : olderThan field s now with
      | error e => rw [hc] at h; cases h
      | ok c =>
        rw [hc] at h
        obtain rfl := Except.ok.inj h
        obtain ⟨t, rfl, ht⟩ := olderThan_ok hc
        have hasks : Asks p (.olderThan field t) := asks_of_fixed ht nofun rfl
        exact ⟨by simp [hs], by simpa using hasks⟩

lemma makes_comments {v : Option Int} {cs : List Clause} (h : commentsClause v = .ok cs) :
    Makes p v.toList.length cs := by
  cases v with
  | none =>
    obtain rfl := Except.ok.inj h
    exact ⟨rfl, by simp⟩
  | some n =>
    dsimp only [commentsClause] at h
    cases hfault : DigitLimit.standard.numberFault? n with
    | some fault => rw [hfault] at h; cases h
    | none =>
      rw [hfault] at h
      obtain rfl := Except.ok.inj h
      have hasks : Asks p (.commentsAtMost n) := asks_of_fixed trivial nofun rfl
      exact ⟨rfl, by simpa using hasks⟩

lemma makes_labels {negated : Bool} {v : Option (List String)} (h : ∀ l ∈ v.getD [], l ∈ p.labels) :
    Makes p (v.getD []).length (labelClauses negated (v.getD [])) := by
  refine ⟨List.length_map .., ?_⟩
  rintro c hc
  obtain ⟨l, hl, rfl⟩ := List.mem_map.mp hc
  by_cases hno : l = noValue
  · rw [if_pos hno]
    exact asks_of_fixed trivial nofun rfl
  · rw [if_neg hno]
    refine ⟨trivial, nofun, ?_⟩
    rintro _ ⟨⟩
    exact h l hl

lemma mem_logins {s : String} {v : Option String} (hs : v = some s)
    (hv : v ∈ [p.author, p.notAuthor, p.assignee, p.notAssigned, p.reviewedBy]) : s ∈ p.logins :=
  List.reduceOption_mem_iff.mpr (hs ▸ hv)

lemma asks_login {make : String → Clause} {s : String} (hs : s ∈ p.logins)
    (hmake : (make s).value? = some (false, s)) : Asks p (make s) := by
  refine ⟨?_, ?_, ?_⟩
  · cases hc : make s <;> simp_all [Clause.value?, Clause.IsOwnPlain]
  · rintro r hr
    simp [hr, Clause.value?] at hmake
  · rintro v hv
    obtain rfl := Option.some.inj (hmake.symm.trans hv)
    exact hs

lemma asks_assignee {s : String} (hs : s ∈ p.logins) : Asks p (assigneeClause s) := by
  unfold assigneeClause
  split_ifs
  · exact asks_of_fixed trivial nofun rfl
  · exact asks_login hs rfl

/-- The clauses of predicates: the repository's, and one for each value. -/
lemma clauses_ok {all : List Clause} (h : clauses p repository now = .ok all) :
    ∃ cs, all = .repository repository :: cs ∧ Makes p p.valueCount cs := by
  unfold clauses at h
  cases hcreated : timeClause .created now p.created with
  | error e => rw [hcreated] at h; cases h
  | ok created =>
  cases hupdated : timeClause .updated now p.updated with
  | error e => rw [hcreated, hupdated] at h; cases h
  | ok updated =>
  cases hcomments : commentsClause p.comments with
  | error e => rw [hcreated, hupdated, hcomments] at h; cases h
  | ok comments =>
  rw [hcreated, hupdated, hcomments] at h
  obtain rfl := Except.ok.inj h
  refine ⟨_, rfl, ?_⟩
  unfold Predicates.valueCount
  -- the fields in their order, since both the clauses and the count follow it
  repeat' apply Makes.append
  · exact makes_fixed p.type fun _ => asks_of_fixed trivial nofun rfl
  · exact makes_fixed p.state fun _ => asks_of_fixed trivial nofun rfl
  · exact makes_time hcreated
  · exact makes_time hupdated
  · exact makes_labels fun l hl => List.mem_append_left _ hl
  · exact makes_labels fun l hl => List.mem_append_right _ hl
  · exact makes_text fun s hs => asks_login (mem_logins hs (by simp)) rfl
  · exact makes_text fun s hs => asks_login (mem_logins hs (by simp)) rfl
  · exact makes_text fun s hs => asks_assignee (mem_logins hs (by simp))
  · exact makes_text fun s hs => asks_login (mem_logins hs (by simp)) rfl
  · exact makes_comments hcomments
  · exact makes_fixed p.review fun _ => asks_of_fixed trivial nofun rfl
  · exact makes_text fun s hs => asks_login (mem_logins hs (by simp)) rfl
  · exact makes_fixed p.linked fun _ => asks_of_fixed trivial nofun rfl
  · exact makes_fixed p.noLinked fun _ => asks_of_fixed trivial nofun rfl

lemma toList_render (cs : List Clause) :
    (render cs).toList = [' '].intercalate (cs.map (·.text.toList)) := by
  rw [render, Text.join, String.toList_intercalate, List.map_map]
  rfl

lemma separates_cons {endings : List (Option Bool)} :
    Separates (some false :: endings) ↔ Separates endings := by
  cases endings with
  | nil => exact ⟨fun _ => trivial, fun _ => rfl⟩
  | cons ending later => exact and_iff_right rfl

lemma separates_of_forall {endings : List (Option Bool)} (h : ∀ e ∈ endings, e = some false) :
    Separates endings := by
  induction endings with
  | nil => trivial
  | cons ending later ih =>
    rw [h ending List.mem_cons_self, separates_cons]
    exact ih fun e he => h e (List.mem_cons_of_mem _ he)

/-- A clause of a label without quotes or a login without quotes and blanks leaves no quote open. -/
lemma Asks.ending {c : Clause} (h : Asks p c) (hlabels : ∀ l ∈ p.labels, '"' ∉ l.toList)
    (hlogins : ∀ l ∈ p.logins, Plain l.toList) : c.ending = some false := by
  unfold Clause.ending
  cases hv : c.value? with
  | none => rfl
  | some v =>
    have hmem := h.value v hv
    obtain ⟨inQuotes, s⟩ := v
    cases inQuotes with
    | false =>
      rw [Option.elim_some, (hlogins s hmem).quoteAfter]
      rfl
    | true =>
      rw [Option.elim_some, quoteAfter_of_open (hlabels s hmem)]
      rfl

/-- Whether a piece of a query is a qualifier of a repository. -/
def isScope (token : List Char) : Bool := "repo:".toList.isPrefixOf token

lemma filter_isScope {cs : List Clause} (h : ∀ c ∈ cs, Asks p c) :
    ((Clause.repository repository :: cs).map (·.text.toList)).filter isScope =
      [(Clause.repository repository).text.toList] := by
  have hown : isScope (Clause.repository repository).text.toList = true := by
    rw [isScope, List.isPrefixOf_iff_prefix, Clause.text, String.toList_append]
    exact List.prefix_append _ _
  rw [List.map_cons, List.filter_cons_of_pos hown, List.filter_eq_nil_iff.mpr]
  rintro _ hmem hscope
  obtain ⟨c, hc, rfl⟩ := List.mem_map.mp hmem
  obtain ⟨r, rfl⟩ := Clause.repo_isPrefix_text (List.isPrefixOf_iff_prefix.mp hscope)
  exact (h _ hc).notRepository r rfl

/-- A query is cut into the repository's clause and one clause for each value exactly when no label or
login has a blank outside quotes and only the last one leaves a quote open. Its own repository is then
the only one it names. Labels without quotes and logins without quotes and blanks are such values. -/
theorem compile_tokens {query : String} (hplain : Plain repository.fullName.toList)
    (hquery : compile p repository now = .ok query) :
    ∃ cs, clauses p repository now = .ok (.repository repository :: cs) ∧
      cs.length = p.valueCount ∧
      (tokens false query.toList = (.repository repository :: cs).map (·.text.toList) ↔
        Separates (cs.map Clause.ending)) ∧
      (Separates (cs.map Clause.ending) →
        (tokens false query.toList).filter isScope =
          [(Clause.repository repository).text.toList]) ∧
      ((∀ l ∈ p.labels, '"' ∉ l.toList) → (∀ l ∈ p.logins, Plain l.toList) →
        Separates (cs.map Clause.ending)) := by
  cases hall : clauses p repository now with
  | error e =>
    rw [compile, hall] at hquery
    cases hquery
  | ok all =>
    rw [compile, hall] at hquery
    obtain rfl := Except.ok.inj hquery
    obtain ⟨cs, rfl, hlength, hasks⟩ := clauses_ok hall
    have hown : (Clause.repository repository).IsOwnPlain := hplain
    have hendings : (Clause.repository repository :: cs).map
        (quoteAfter false ∘ fun c => c.text.toList) = some false :: cs.map Clause.ending := by
      rw [List.map_cons, Function.comp_apply, Clause.quoteAfter_text hown]
      exact congrArg _ (List.map_congr_left fun c hc => Clause.quoteAfter_text (hasks c hc).ownPlain)
    have hcut : tokens false (render (.repository repository :: cs)).toList =
        (Clause.repository repository :: cs).map (·.text.toList) ↔ Separates (cs.map Clause.ending) := by
      rw [toList_render, tokens_intercalate_iff (by simp), List.map_map, hendings]
      exact separates_cons
    refine ⟨cs, rfl, hlength, hcut, ?_, ?_⟩
    · intro hseparates
      rw [hcut.mpr hseparates]
      exact filter_isScope hasks
    · intro hlabels hlogins
      refine separates_of_forall fun e he => ?_
      obtain ⟨c, hc, rfl⟩ := List.mem_map.mp he
      exact (hasks c hc).ending hlabels hlogins

/-- A task for issues that carry a label of two words and belong to one login. -/
def helpTask : Predicates := { label := some ["help wanted"], author := some "ann" }

def firstDay : Moment := ⟨0, none, Moment.maxTicks_pos⟩

/-- The label's blank cuts nothing, so the query names one repository. -/
theorem compile_tokens_of_helpTask :
    ∃ query, compile helpTask ⟨"octo", "widgets"⟩ firstDay = .ok query ∧
      Plain (Repository.fullName ⟨"octo", "widgets"⟩).toList ∧
      (tokens false query.toList).filter isScope =
        [(Clause.repository ⟨"octo", "widgets"⟩).text.toList] := by
  have hplain : Plain (Repository.fullName ⟨"octo", "widgets"⟩).toList := by decide
  have hquery : compile helpTask ⟨"octo", "widgets"⟩ firstDay =
      .ok "repo:octo/widgets label:\"help wanted\" author:ann" := rfl
  obtain ⟨cs, -, -, -, hscope, hseparates⟩ := compile_tokens hplain hquery
  exact ⟨_, hquery, hplain, hscope (hseparates (by decide) (by decide))⟩

/-- A login with blanks makes clauses of its own: its task searches another repository. -/
theorem compile_tokens_of_loginWithBlank :
    ∃ rule query,
      Rule.parse "leak" (.map [(.str "if_author", .str "ann repo:evil/secrets")]) = .ok rule ∧
      rule.predicates.valueCount = 1 ∧ Plain (Repository.fullName ⟨"octo", "widgets"⟩).toList ∧
      compile rule.predicates ⟨"octo", "widgets"⟩ firstDay = .ok query ∧
      tokens false query.toList =
        ["repo:octo/widgets".toList, "author:ann".toList, "repo:evil/secrets".toList] ∧
      ((tokens false query.toList).filter isScope).length = 2 := by
  refine ⟨⟨"leak", { author := some "ann repo:evil/secrets" }, {}⟩,
    "repo:octo/widgets author:ann repo:evil/secrets", rfl, rfl, by decide, rfl, by decide, by decide⟩

end Query

end Triage
