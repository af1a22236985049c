import Mathlib
import Triage.Proofs.CommandLines
import Triage.Template

/-!
# Filling in templates

The placeholders of a template are filled in one kind after another, each time in the whole text. When
every dollar sign of the template begins a placeholder and no login holds one, this comes to one pass over
the template: what is filled in is never looked at again, and the order of the kinds does not matter.
-/

namespace Triage

namespace Text

variable {literal value cs : List Char}

lemma replaceFrom_append (literal value xs cs : List Char) :
    replaceFrom literal value xs.length (xs ++ cs) = replaceFrom literal value 0 cs := by
  induction xs with
  | nil => rfl
  | cons x xs ih => exact ih

lemma replaceAll_append (hne : literal ≠ []) (value cs : List Char) :
    replaceAll literal value (literal ++ cs) = value ++ replaceAll literal value cs := by
  obtain ⟨c, tail, rfl⟩ := List.exists_cons_of_ne_nil hne
  have hfront : (c :: tail).isPrefixOf (c :: (tail ++ cs)) = true :=
    List.isPrefixOf_iff_prefix.mpr (List.prefix_append (c :: tail) cs)
  rw [List.cons_append, replaceAll, replaceFrom, if_pos hfront, List.length_cons, Nat.add_sub_cancel,
    replaceFrom_append]
  rfl

lemma replaceAll_cons {c : Char} (h : ¬literal <+: c :: cs) (value : List Char) :
    replaceAll literal value (c :: cs) = c :: replaceAll literal value cs := by
  have hfront : ¬literal.isPrefixOf (c :: cs) = true := by rwa [List.isPrefixOf_iff_prefix]
  rw [replaceAll, replaceFrom, if_neg hfront]
  rfl

/-- A text without the first character of the literal is passed over. -/
lemma replaceAll_append_of_notMem {c : Char} {tail xs : List Char} (h : c ∉ xs) (value cs : List Char) :
    replaceAll (c :: tail) value (xs ++ cs) = xs ++ replaceAll (c :: tail) value cs := by
  induction xs with
  | nil => rfl
  | cons x xs ih =>
    rw [List.mem_cons, not_or] at h
    have hfront : ¬c :: tail <+: x :: (xs ++ cs) := fun hp => h.1 (List.cons_prefix_cons.mp hp).1
    rw [List.cons_append, replaceAll_cons hfront, ih h.2, List.cons_append]

lemma replaceAll_of_notMem {c : Char} {tail xs : List Char} (h : c ∉ xs) (value : List Char) :
    replaceAll (c :: tail) value xs = xs :=
  calc replaceAll (c :: tail) value xs = replaceAll (c :: tail) value (xs ++ []) := by rw [List.append_nil]
    _ = xs ++ replaceAll (c :: tail) value [] := replaceAll_append_of_notMem h value []
    _ = xs := List.append_nil xs

end Text

/-- The logins that a comment may name: the author's and those of the assignees. -/
def Issue.logins (i : Issue) : List String := (i.user.map (·.login)).toList ++ i.assigneeLogins

namespace Template

/-- Every dollar sign of the text begins a placeholder. -/
def WellFormed (cs : List Char) : Prop :=
  ∀ rest ∈ cs.tails, rest.head? = some '$' → ∃ p ∈ Placeholder.all, p.text.toList <+: rest

instance (cs : List Char) : Decidable (WellFormed cs) :=
  inferInstanceAs (Decidable (∀ rest ∈ cs.tails, rest.head? = some '$' →
    ∃ p ∈ Placeholder.all, p.text.toList <+: rest))

/-- One pass from left to right: where a placeholder begins, its value stands for it, and everything else
is copied. `skip` characters still belong to the last placeholder. -/
def expandFrom (value : Placeholder → List Char) : Nat → List Char → List Char
  | _, [] => []
  | skip + 1, _ :: cs => expandFrom value skip cs
  | 0, c :: cs =>
    match Placeholder.all.find? fun p => p.text.toList.isPrefixOf (c :: cs) with
    | some p => value p ++ expandFrom value (p.text.toList.length - 1) cs
    | none => c :: expandFrom value 0 cs

def expand (value : Placeholder → List Char) (cs : List Char) : List Char := expandFrom value 0 cs

/-- Placeholders filled in by kinds, in the given order. -/
def fillIn (order : List Placeholder) (value : Placeholder → List Char) (cs : List Char) : List Char :=
  order.foldl (fun body p => Text.replaceAll p.text.toList (value p) body) cs

/-- The comment when the placeholders are filled in in the given order. -/
def renderIn (order : List Placeholder) (template : String) (issue : Issue) : String :=
  String.ofList (fillIn order (fun p => (p.value issue).toList) template.toList)

lemma renderIn_all (template : String) (issue : Issue) :
    renderIn Placeholder.all template issue = render template issue := rfl

namespace Placeholder

lemma mem_all (p : Placeholder) : p ∈ all := by
  cases p <;> decide

/-- A placeholder has one dollar sign, its first character. -/
lemma exists_text (p : Placeholder) : ∃ tail, p.text.toList = '$' :: tail ∧ '$' ∉ tail := by
  cases p
  · exact ⟨"\x7bAT_AUTHOR\x7d".toList, by decide, by decide⟩
  · exact ⟨"\x7bAT_ASSIGNEE\x7d".toList, by decide, by decide⟩
  · exact ⟨"\x7bAUTHOR\x7d".toList, by decide, by decide⟩
  · exact ⟨"\x7bASSIGNEE\x7d".toList, by decide, by decide⟩

/-- No placeholder begins with another one. -/
lemma eq_of_isPrefix {p q : Placeholder} {rest : List Char}
    (h : p.text.toList <+: q.text.toList ++ rest) : p = q := by
  have hfree : ∀ p ∈ all, ∀ q ∈ all, p.text.toList <+: q.text.toList → p = q := by decide
  rcases List.prefix_or_prefix_of_prefix h (List.prefix_append q.text.toList rest) with hpq | hqp
  · exact hfree p p.mem_all q q.mem_all hpq
  · exact (hfree q q.mem_all p p.mem_all hqp).symm

end Placeholder

/-- A template is made of placeholders and other characters. -/
inductive Piece where
  | char (c : Char)
  | placeholder (p : Placeholder)
  deriving DecidableEq, Repr

/-- What shows of a piece when some placeholders have been filled in. -/
def Piece.shown (value : Placeholder → List Char) (filled : List Placeholder) : Piece → List Char
  | char c => [c]
  | placeholder p => if p ∈ filled then value p else p.text.toList

section Pieces

variable {value : Placeholder → List Char} {filled : List Placeholder} {pieces : List Piece}

/-- No dollar sign stands among the other characters. -/
def Sound (pieces : List Piece) : Prop := .char '$' ∉ pieces

lemma Sound.cons {piece : Piece} (h : Sound (piece :: pieces)) : .char '$' ≠ piece ∧ Sound pieces :=
  ⟨fun hp => h (hp ▸ List.mem_cons_self), fun hp => h (List.mem_cons_of_mem _ hp)⟩

lemma WellFormed.of_isSuffix {cs rest : List Char} (h : WellFormed cs) (hrest : rest <:+ cs) :
    WellFormed rest := by
  intro later hlater
  refine h later ?_
  rw [List.mem_tails] at hlater ⊢
  exact hlater.trans hrest

/-- A well-formed template falls into placeholders and characters other than dollar signs. -/
lemma WellFormed.exists_pieces {cs : List Char} (h : WellFormed cs) (value : Placeholder → List Char) :
    ∃ pieces, Sound pieces ∧ cs = pieces.flatMap (Piece.shown value []) := by
  induction hn : cs.length using Nat.strong_induction_on generalizing cs with
  | _ n ih =>
    cases cs with
    | nil => exact ⟨[], List.not_mem_nil, rfl⟩
    | cons c cs =>
      rw [List.length_cons] at hn
      by_cases hc : c = '$'
      · subst hc
        obtain ⟨p, -, rest, hrest⟩ := h ('$' :: cs) ((List.mem_tails _ _).mpr (List.suffix_refl _)) rfl
        obtain ⟨tail, htext, -⟩ := p.exists_text
        have hlength := congrArg List.length hrest
        rw [htext, List.length_append, List.length_cons, List.length_cons] at hlength
        obtain ⟨pieces, hsound, hpieces⟩ := ih rest.length (by omega) (h.of_isSuffix ⟨_, hrest⟩) rfl
        refine ⟨.placeholder p :: pieces, ?_, ?_⟩
        · simpa [Sound] using hsound
        · rw [List.flatMap_cons, ← hpieces, ← hrest]
          rfl
      · obtain ⟨pieces, hsound, hpieces⟩ := ih cs.length (by omega) (h.of_isSuffix (List.suffix_cons c cs)) rfl
        refine ⟨.char c :: pieces, ?_, ?_⟩
        · simpa [Sound, Ne.symm hc] using hsound
        · rw [List.flatMap_cons, ← hpieces]
          rfl

/-- Filling in one kind of placeholder leaves the others and what was filled in before. -/
lemma replaceAll_shown (hvalue : ∀ p, '$' ∉ value p) (hsound : Sound pieces) (p : Placeholder) :
    Text.replaceAll p.text.toList (value p) (pieces.flatMap (Piece.shown value filled)) =
      pieces.flatMap (Piece.shown value (p :: filled)) := by
  obtain ⟨tail, htext, -⟩ := p.exists_text
  induction pieces with
  | nil => rfl
  | cons piece pieces ih =>
    obtain ⟨hpiece, hrest⟩ := hsound.cons
    have hcopied {xs : List Char} (hxs : '$' ∉ xs) :
        Text.replaceAll p.text.toList (value p) (xs ++ pieces.flatMap (Piece.shown value filled)) =
          xs ++ pieces.flatMap (Piece.shown value (p :: filled)) := by
      rw [← ih hrest, htext, Text.replaceAll_append_of_notMem hxs]
    rw [List.flatMap_cons, List.flatMap_cons]
    cases piece with
    | char c => exact hcopied (by simpa [Piece.shown] using hpiece)
    | placeholder q =>
      by_cases hq : q ∈ filled
      · rw [Piece.shown, if_pos hq, Piece.shown, if_pos (List.mem_cons_of_mem p hq)]
        exact hcopied (hvalue q)
      · rw [Piece.shown, if_neg hq, Piece.shown]
        by_cases hpq : q = p
        · subst hpq
          rw [if_pos List.mem_cons_self, Text.replaceAll_append (by simp [htext]), ih hrest]
        · obtain ⟨tail', htext', htail'⟩ := q.exists_text
          have hfront : ¬p.text.toList <+: q.text.toList ++ pieces.flatMap (Piece.shown value filled) :=
            fun h => hpq (Placeholder.eq_of_isPrefix h).symm
          rw [htext', List.cons_append] at hfront
          rw [if_neg (by simp [hpq, hq]), htext', List.cons_append, Text.replaceAll_cons hfront,
            hcopied htail', List.cons_append]

/-- One kind after another, all that were named are filled in. -/
lemma fillIn_shown (hvalue : ∀ p, '$' ∉ value p) (hsound : Sound pieces) (order : List Placeholder) :
    fillIn order value (pieces.flatMap (Piece.shown value filled)) =
      pieces.flatMap (Piece.shown value (order.reverse ++ filled)) := by
  induction order generalizing filled with
  | nil => rfl
  | cons p order ih =>
    rw [fillIn, List.foldl_cons, replaceAll_shown hvalue hsound, ← fillIn, ih, List.reverse_cons,
      List.append_assoc, List.singleton_append]

lemma find?_placeholder (p : Placeholder) (rest : List Char) :
    (Placeholder.all.find? fun q => q.text.toList.isPrefixOf (p.text.toList ++ rest)) = some p := by
  cases hfind : Placeholder.all.find? fun q => q.text.toList.isPrefixOf (p.text.toList ++ rest) with
  | none =>
    have hnot := List.find?_eq_none.mp hfind p p.mem_all
    rw [List.isPrefixOf_iff_prefix] at hnot
    exact absurd (List.prefix_append _ _) hnot
  | some q =>
    have hfront := List.find?_some hfind
    rw [List.isPrefixOf_iff_prefix] at hfront
    rw [Placeholder.eq_of_isPrefix hfront]

lemma expandFrom_append (value : Placeholder → List Char) (xs cs : List Char) :
    expandFrom value xs.length (xs ++ cs) = expand value cs := by
  induction xs with
  | nil => rfl
  | cons x xs ih => exact ih

/-- The single pass fills in every placeholder. -/
lemma expand_shown (hsound : Sound pieces) (hall : ∀ p, p ∈ filled) :
    expand value (pieces.flatMap (Piece.shown value [])) = pieces.flatMap (Piece.shown value filled) := by
  induction pieces with
  | nil => rfl
  | cons piece pieces ih =>
    obtain ⟨hpiece, hrest⟩ := hsound.cons
    rw [List.flatMap_cons, List.flatMap_cons, ← ih hrest]
    cases piece with
    | char c =>
      have hnone : (Placeholder.all.find? fun q => q.text.toList.isPrefixOf
          (c :: pieces.flatMap (Piece.shown value []))) = none := by
        rw [List.find?_eq_none]
        intro q _ hfront
        obtain ⟨tail, htext, -⟩ := q.exists_text
        rw [List.isPrefixOf_iff_prefix, htext] at hfront
        exact hpiece (congrArg Piece.char (List.cons_prefix_cons.mp hfront).1)
      rw [Piece.shown, List.singleton_append, expand, expandFrom, hnone]
      rfl
    | placeholder p =>
      obtain ⟨tail, htext, -⟩ := p.exists_text
      have hfind := find?_placeholder p (pieces.flatMap (Piece.shown value []))
      have hlength : p.text.toList.length - 1 = tail.length := by rw [htext]; rfl
      rw [Piece.shown, if_neg List.not_mem_nil, Piece.shown, if_pos (hall p)]
      rw [htext, List.cons_append] at hfind ⊢
      rw [expand, expandFrom, hfind]
      dsimp only
      rw [hlength, expandFrom_append]

lemma notMem_shown (hvalue : ∀ p, '$' ∉ value p) (hsound : Sound pieces) (hall : ∀ p, p ∈ filled) :
    '$' ∉ pieces.flatMap (Piece.shown value filled) := by
  intro hmem
  obtain ⟨piece, hpiece, hdollar⟩ := List.mem_flatMap.mp hmem
  cases piece with
  | char c =>
    rw [Piece.shown, List.mem_singleton] at hdollar
    exact hsound (hdollar ▸ hpiece)
  | placeholder p =>
    rw [Piece.shown, if_pos (hall p)] at hdollar
    exact hvalue p hdollar

/-- In a text without dollar signs there is nothing to fill in. -/
lemma fillIn_of_notMem {cs : List Char} (h : '$' ∉ cs) (order : List Placeholder) :
    fillIn order value cs = cs := by
  induction order with
  | nil => rfl
  | cons p order ih =>
    obtain ⟨tail, htext, -⟩ := p.exists_text
    rw [fillIn, List.foldl_cons, htext, Text.replaceAll_of_notMem h]
    exact ih

end Pieces

lemma dollar_notMem_value {issue : Issue} (h : ∀ login ∈ issue.logins, '$' ∉ login.toList)
    (p : Placeholder) : '$' ∉ (p.value issue).toList := by
  simp only [Issue.logins, List.mem_append, or_imp, forall_and] at h
  obtain ⟨hauthor, hassignees⟩ := h
  have hmention {logins : List String} (hlogins : ∀ login ∈ logins, '$' ∉ login.toList) :
      ∀ mention ∈ logins.map ("@" ++ ·), '$' ∉ mention.toList := by
    intro mention hm
    obtain ⟨login, hlogin, rfl⟩ := List.mem_map.mp hm
    simpa using hlogins login hlogin
  cases p with
  | atAuthor => exact Text.notMem_join (by decide) (hmention hauthor)
  | atAssignee => exact Text.notMem_join (by decide) (hmention hassignees)
  | author => exact Text.notMem_join (by decide) hauthor
  | assignee => exact Text.notMem_join (by decide) hassignees

/-- In a well-formed template, and for logins without dollar signs, filling in one kind of placeholder after
another is one simultaneous pass. Nothing that is filled in is looked at again: no placeholder is left, so
that filling in once more changes nothing. The kinds may be filled in in any order. -/
theorem render_simultaneous (template : String) (issue : Issue)
    (hlogins : ∀ login ∈ issue.logins, '$' ∉ login.toList) (htemplate : WellFormed template.toList) :
    (render template issue).toList = expand (fun p => (p.value issue).toList) template.toList ∧
      (∀ p : Placeholder, ¬p.text.toList <:+: (render template issue).toList) ∧
      (∀ other, render (render template issue) other = render template issue) ∧
      ∀ order : List Placeholder, order.Perm Placeholder.all →
        renderIn order template issue = render template issue := by
  have hvalue := dollar_notMem_value hlogins
  obtain ⟨pieces, hsound, hpieces⟩ := htemplate.exists_pieces fun p => (p.value issue).toList
  have hall {order : List Placeholder} (horder : order.Perm Placeholder.all) :
      ∀ p, p ∈ order.reverse ++ [] := by
    intro p
    rw [List.append_nil, List.mem_reverse, horder.mem_iff]
    exact p.mem_all
  have hfilled {order : List Placeholder} (horder : order.Perm Placeholder.all) :
      (renderIn order template issue).toList = expand (fun p => (p.value issue).toList) template.toList := by
    rw [renderIn, String.toList_ofList, hpieces, fillIn_shown hvalue hsound, expand_shown hsound (hall horder)]
  have hrender : (render template issue).toList =
      expand (fun p => (p.value issue).toList) template.toList := hfilled (List.Perm.refl _)
  have hdollar : '$' ∉ (render template issue).toList := by
    rw [hrender, hpieces, expand_shown hsound (hall (List.Perm.refl _))]
    exact notMem_shown hvalue hsound (hall (List.Perm.refl _))
  refine ⟨hrender, ?_, ?_, ?_⟩
  · intro p hp
    obtain ⟨tail, htext, -⟩ := p.exists_text
    rw [htext] at hp
    exact hdollar (hp.subset List.mem_cons_self)
  · intro other
    rw [← renderIn_all (render template issue), renderIn, fillIn_of_notMem hdollar, String.ofList_toList]
  · intro order horder
    rw [← String.toList_inj, hfilled horder, hrender]

/-- Placeholders side by side, one of them for an author who is gone. -/
def handover : String :=
  "$\x7bAT_AUTHOR\x7d$\x7bASSIGNEE\x7d: over to $\x7bAT_ASSIGNEE\x7d\x7d$\x7bAUTHOR\x7d"

def orphanIssue : Issue :=
  { number := 7, state := "open", assignees := [{ login := "ada" }, { login := "bob" }] }

theorem render_simultaneous_handover :
    (∀ login ∈ orphanIssue.logins, '$' ∉ login.toList) ∧ WellFormed handover.toList ∧
    render handover orphanIssue = "ada bob: over to @ada @bob\x7d" ∧
    (render handover orphanIssue).toList =
      expand (fun p => (p.value orphanIssue).toList) handover.toList ∧
    renderIn Placeholder.all.reverse handover orphanIssue = render handover orphanIssue := by
  have hlogins : ∀ login ∈ orphanIssue.logins, '$' ∉ login.toList := by decide
  have htemplate : WellFormed handover.toList := by decide
  obtain ⟨hpass, -, -, horder⟩ := render_simultaneous handover orphanIssue hlogins htemplate
  exact ⟨hlogins, htemplate, by decide +kernel, hpass, horder _ (List.reverse_perm _)⟩

end Template

end Triage
