import Mathlib
import Triage.Console.Perform
import Triage.Proofs.FlawlessSweeps

/-!
# The exit code of a single sweep

A sweep that is run once ends with code 0 when it has a token and a configuration, and nothing goes wrong
in it. In every other case it ends with code 1, so no failure is hidden: neither one that stops the sweep
nor one that is only told of in a report.
-/

namespace Triage

namespace Tracker

/-- What a file of the repository turns out to hold when it is asked for after a log: its text, or nothing
when the repository has no such file. -/
inductive Reads (t : Tracker) (log : List Call) (path : String) : Option String → Prop where
  | stored {bytes : List Nat} {text : String} : t.fails (log ++ [.contents path]) = none →
      Entries.get? path t.files = some (.file bytes) → Text.decodeUtf8 bytes = .ok text →
      Reads t log path (some text)
  | unlisted : t.fails (log ++ [.contents path]) = none → Entries.get? path t.files = none →
      Reads t log path none
  | unknown {refusal : Refusal} : t.fails (log ++ [.contents path]) = some (.refused true refusal) →
      Reads t log path none

variable {t : Tracker} {h h' : Host}

lemma findRepository_ok_iff (a : Activity) : findRepository a t h = (.ok (), h') ↔
    t.fails (h.log ++ [.findRepository t.scope.fullName]) = none ∧ t.scope.fullName = t.home ∧
      h' = h.logged (.findRepository t.scope.fullName) := by
  unfold findRepository
  cases hf : t.fails (h.log ++ [.findRepository t.scope.fullName]) with
  | none =>
    have hcall := call_ok hf
    simp only [hcall, true_and]
    by_cases hs : t.scope.fullName = t.home
    · simp [hs, eq_comm]
    · simp [hs]
  | some fault =>
    have hcall := call_error hf
    rcases fault with ⟨- | -, refusal⟩ | text <;> simp [hcall]

/-- The second half of reading a file, once the repository is found. -/
def readFile (path : String) : Op Failure (Option String) := fun t h =>
  match call (.contents path) t h with
  | (.error (.refused true _), h') => (.ok none, h')
  | (.error fault, h') => (.error (fault.during (.fetchFile path)), h')
  | (.ok (), h') =>
    match Entries.get? path t.files with
    | none => (.ok none, h')
    | some .directory => (.error (.directory path), h')
    | some (.file bytes) =>
      match Text.decodeUtf8 bytes with
      | .ok text => (.ok (some text), h')
      | .error fault => (.error (.undecodable fault), h')

lemma readFile_ok_iff (path : String) (text : Option String) : readFile path t h = (.ok text, h') ↔
    t.Reads h.log path text ∧ h' = h.logged (.contents path) := by
  unfold readFile
  constructor
  · intro hread
    cases hf : t.fails (h.log ++ [.contents path]) with
    | none =>
      rw [call_ok hf] at hread
      cases hfile : Entries.get? path t.files with
      | none =>
        simp only [hfile, Prod.mk.injEq, Except.ok.injEq] at hread
        obtain ⟨rfl, rfl⟩ := hread
        exact ⟨.unlisted hf hfile, rfl⟩
      | some stored =>
        cases stored with
        | directory => simp [hfile] at hread
        | file bytes =>
          cases hdecode : Text.decodeUtf8 bytes with
          | error fault => simp [hfile, hdecode] at hread
          | ok content =>
            simp only [hfile, hdecode, Prod.mk.injEq, Except.ok.injEq] at hread
            obtain ⟨rfl, rfl⟩ := hread
            exact ⟨.stored hf hfile hdecode, rfl⟩
    | some fault =>
      rw [call_error hf] at hread
      rcases fault with ⟨- | -, refusal⟩ | message
      · simp at hread
      · simp only [Prod.mk.injEq, Except.ok.injEq] at hread
        obtain ⟨rfl, rfl⟩ := hread
        exact ⟨.unknown hf, rfl⟩
      · simp at hread
  · rintro ⟨hreads, rfl⟩
    cases hreads with
    | stored hf hfile hdecode => simp only [call_ok hf, hfile, hdecode]
    | unlisted hf hfile => simp only [call_ok hf, hfile]
    | unknown hf => simp only [call_error hf]

lemma contents_ok_iff (path : String) (text : Option String) : contents path t h = (.ok text, h') ↔
    t.fails (h.log ++ [.findRepository t.scope.fullName]) = none ∧ t.scope.fullName = t.home ∧
      t.Reads (h.log ++ [.findRepository t.scope.fullName]) path text ∧
      h' = (h.logged (.findRepository t.scope.fullName)).logged (.contents path) := by
  have hcontents : contents path = findRepository (.fetchFile path) >>= fun _ => readFile path := rfl
  rw [hcontents, Op.bind_eq_ok]
  constructor
  · rintro ⟨_, h₁, hfind, hread⟩
    obtain ⟨hf, hs, rfl⟩ := (findRepository_ok_iff _).mp hfind
    exact ⟨hf, hs, (readFile_ok_iff path text).mp hread⟩
  · rintro ⟨hf, hs, hread⟩
    exact ⟨(), _, (findRepository_ok_iff _).mpr ⟨hf, hs, rfl⟩, (readFile_ok_iff path text).mpr hread⟩

end Tracker

namespace Console.Invocation

/-- Where the configuration of a command comes from: a local file that is given, or the file of the
repository. -/
inductive Configured (env : Environment) (a : Access) (t : Tracker) (h : Host) :
    Configuration → Host → Prop where
  | given {path text : String} {c : Configuration} : a.configFile = some path →
      env.text path = .ok text → Configuration.load (some text) = .ok c → Configured env a t h c h
  | fetched {text : Option String} {c : Configuration} : a.configFile = none →
      t.fails (h.log ++ [.findRepository t.scope.fullName]) = none → t.scope.fullName = t.home →
      t.Reads (h.log ++ [.findRepository t.scope.fullName]) a.configPath text →
      Configuration.load text = .ok c → Configured env a t h c
        ((h.logged (.findRepository t.scope.fullName)).logged (.contents a.configPath))

lemma given_ok_iff {env : Environment} {a : Access} {path : String} {t : Tracker} {h h' : Host}
    {c : Configuration} (hfile : a.configFile = some path) :
    configuration env a t h = (.ok c, h') ↔ Configured env a t h c h' := by
  have hload : configuration env a =
      Op.ofExcept ((env.text path).bind fun text => Configuration.load (some text)) := by
    rw [configuration, hfile]
    rfl
  rw [hload, Op.ofExcept_eq_ok]
  constructor
  · rintro ⟨hok, rfl⟩
    cases htext : env.text path with
    | error e =>
      rw [htext] at hok
      cases hok
    | ok text =>
      rw [htext] at hok
      exact .given hfile htext hok
  · intro hc
    cases hc with
    | given hpath htext hok =>
      obtain rfl := Option.some.inj (hfile.symm.trans hpath)
      rw [htext]
      exact ⟨hok, rfl⟩
    | fetched hnone =>
      rw [hfile] at hnone
      cases hnone

lemma fetched_ok_iff {env : Environment} {a : Access} {t : Tracker} {h h' : Host}
    {c : Configuration} (hfile : a.configFile = none) :
    configuration env a t h = (.ok c, h') ↔ Configured env a t h c h' := by
  have hfetch : configuration env a =
      Tracker.contents a.configPath >>= fun text => Op.ofExcept (Configuration.load text) := by
    rw [configuration, hfile]
    rfl
  rw [hfetch, Op.bind_eq_ok]
  constructor
  · rintro ⟨text, h₁, hcontents, hload⟩
    obtain ⟨hf, hs, hreads, rfl⟩ := (Tracker.contents_ok_iff _ _).mp hcontents
    obtain ⟨hok, rfl⟩ := Op.ofExcept_eq_ok.mp hload
    exact .fetched hfile hf hs hreads hok
  · intro hc
    cases hc with
    | given hpath =>
      rw [hfile] at hpath
      cases hpath
    | fetched _ hf hs hreads hok =>
      exact ⟨_, _, (Tracker.contents_ok_iff _ _).mpr ⟨hf, hs, hreads, rfl⟩,
        Op.ofExcept_eq_ok.mpr ⟨hok, rfl⟩⟩

theorem configuration_ok_iff (env : Environment) (a : Access) {t : Tracker} {h h' : Host}
    {c : Configuration} : configuration env a t h = (.ok c, h') ↔ Configured env a t h c h' := by
  cases hfile : a.configFile with
  | some path => exact given_ok_iff hfile
  | none => exact fetched_ok_iff hfile

/-- A command has a token when one is given or set in the environment; an empty one is none. -/
def token? (env : Environment) (a : Access) : Option String :=
  (a.token.filter (· ≠ "")).or (env.lookup? "GITHUB_TOKEN")

/-- Everything in a single sweep goes as it should. -/
def Succeeds (env : Environment) (a : Access) (now : Moment) (t : Tracker) (h : Host) : Prop :=
  (token? env a).isSome = true ∧ ∃ c h₁, Configured env a t h c h₁ ∧ Sweep.Flawless c now t h₁

/-- A configuration and then a sweep over its tasks. -/
def swept (env : Environment) (a : Access) (now : Moment) : Op Failure (List RunReport) := do
  let c ← configuration env a
  Sweep.runAll c now

lemma clean_sweep_iff (env : Environment) (a : Access) (now : Moment) (t : Tracker) (h : Host) :
    (sweep env a now t h).1.2 = true ↔
      ∃ reports h', swept env a now t h = (.ok reports, h') ∧ ∀ report ∈ reports, report.IsClean := by
  have hsweep {outcome : Except Failure (List RunReport)} {h' : Host}
      (hswept : swept env a now t h = (outcome, h')) : (sweep env a now t h).1.2 =
        outcome.toOption.any fun reports => reports.all fun r => !r.skipped && r.failed.isEmpty := by
    have hattempt : Op.attempt (do let c ← configuration env a; Sweep.runAll c now) t h =
        (outcome, h') := hswept
    rw [sweep, Step.bind_apply, hattempt]
    cases outcome <;> rfl
  rcases hswept : swept env a now t h with ⟨e | reports, h'⟩
  · simp [hsweep hswept, Except.toOption]
  · simp [hsweep hswept, Except.toOption, RunReport.IsClean, RunReport.skipped]

lemma sweep_clean_iff (env : Environment) (a : Access) (now : Moment) (t : Tracker) (h : Host) :
    (sweep env a now t h).1.2 = true ↔
      ∃ c h₁, Configured env a t h c h₁ ∧ Sweep.Flawless c now t h₁ := by
  rw [clean_sweep_iff]
  constructor
  · rintro ⟨reports, h', hswept, hreports⟩
    obtain ⟨c, h₁, hc, hrun⟩ := Op.bind_eq_ok.mp hswept
    exact ⟨c, h₁, (configuration_ok_iff env a).mp hc,
      (Sweep.runAll_clean_iff c now t h₁).mp ⟨reports, h', hrun, hreports⟩⟩
  · rintro ⟨c, h₁, hc, hflawless⟩
    obtain ⟨reports, h', hrun, hreports⟩ := (Sweep.runAll_clean_iff c now t h₁).mpr hflawless
    exact ⟨reports, h', Op.bind_eq_ok.mpr ⟨c, h₁, (configuration_ok_iff env a).mpr hc, hrun⟩, hreports⟩

lemma ending_withToken {env : Environment} {a : Access} (htoken : (token? env a).isSome = true)
    (r : Repository) (body : Step Outcome) (t : Tracker) (h : Host) :
    (withToken env r a body t h).1.ending = (body { t with scope := r } h).1.2 := by
  obtain ⟨token, hsome⟩ := Option.isSome_iff_exists.mp htoken
  rw [token?] at hsome
  rw [withToken, hsome]
  rfl

lemma ending_tokenless {env : Environment} {a : Access} (htoken : ¬(token? env a).isSome = true)
    (r : Repository) (body : Step Outcome) (t : Tracker) (h : Host) :
    (withToken env r a body t h).1.ending = .exit 1 := by
  have hnone : token? env a = none := Option.not_isSome_iff_eq_none.mp htoken
  rw [token?] at hnone
  rw [withToken, hnone]
  rfl

lemma ending_run (env : Environment) (now : Moment) (r : Repository) (a : Access) (t : Tracker)
    (h : Host) : (perform env now (.run r a none) t h).1.ending =
      .exit (if (token? env a).isSome = true ∧ (sweep env a now { t with scope := r } h).1.2 = true
        then 0 else 1) := by
  have hperform : perform env now (.run r a none) = withToken env r a (sweepOutcome env a none now) := rfl
  rw [hperform]
  by_cases htoken : (token? env a).isSome = true
  · rw [ending_withToken htoken]
    simp only [htoken, true_and]
    rfl
  · rw [ending_tokenless htoken, if_neg fun hboth => htoken hboth.1]

/-- The exit code of a single sweep is 0 when everything in it goes as it should, and else 1. -/
theorem perform_run_exit (env : Environment) (now : Moment) (r : Repository) (a : Access) (t : Tracker)
    (h : Host) :
    ((perform env now (.run r a none) t h).1.ending = .exit 0 ↔
      Succeeds env a now { t with scope := r } h) ∧
    ((perform env now (.run r a none) t h).1.ending = .exit 1 ↔
      ¬Succeeds env a now { t with scope := r } h) := by
  rw [ending_run, Succeeds, ← sweep_clean_iff]
  split_ifs with hclean
  · exact ⟨iff_of_true rfl hclean, iff_of_false (by rintro ⟨⟩) (not_not_intro hclean)⟩
  · exact ⟨iff_of_false (by rintro ⟨⟩) hclean, iff_of_true rfl hclean⟩

-- Without a file the defaults are used, which have no tasks; without a token nothing is done.
example : (perform {} Sweep.presentDay (.run ⟨"acme", "desk"⟩ ⟨some "t", ".github/ladybug.yml", none⟩ none)
    Sweep.deskTracker Sweep.deskHost).1.ending = .exit 0 := rfl

example : (perform {} Sweep.presentDay (.run ⟨"acme", "desk"⟩ ⟨some "", ".github/ladybug.yml", none⟩ none)
    Sweep.deskTracker Sweep.deskHost).1.ending = .exit 1 := rfl

-- A list that is not closed is no configuration.
example : (perform {} Sweep.presentDay (.run ⟨"acme", "desk"⟩ ⟨some "t", ".github/ladybug.yml", none⟩ none)
    { Sweep.deskTracker with files := [(".github/ladybug.yml", .file ("marks: [".toList.map Char.toNat))] }
    Sweep.deskHost).1.ending = .exit 1 := by cbv

end Console.Invocation

end Triage
