import Selene.LoggedMachine
import Selene.SourceWorkspace

/-!
# Builds of React previews

`RevisionedReactBuilder` runs builds that overlap: a build takes the next
sequence number, waits for its compiler, and goes on when the compiler has
settled.  The machine below takes these moments one by one, in any order over
any number of builds, together with the aborts of the signals that callers pass.
-/

namespace Selene.Generation

open Js

/-! ## Artifacts -/

structure ReactBuildReceipt where
  projectId : JsString
  sourceRevisionId : JsString
  sourceSha256 : JsString
  outputSha256 : JsString
  reachableFiles : List JsString
  deriving DecidableEq

structure ReactBuildArtifact where
  revisionId : JsString
  code : JsString
  css : Option JsString
  sourceMap : Option JsString
  receipt : Option ReactBuildReceipt
  diagnostics : List SourceDiagnostic
  deriving DecidableEq

/-- What a compiler can throw: an `Error`, or any other value. -/
inductive BuildFailure where
  | error (message : JsString)
  | thrown
  deriving DecidableEq

/-- `error instanceof Error ? error.message : 'Build failed'`. -/
def BuildFailure.message : BuildFailure → JsString
  | .error message => message
  | .thrown => js "Build failed"

/-- The `AbortError` of a build that was aborted or superseded. -/
def buildSuperseded : BuildFailure :=
  .error (js "Build superseded")

/-! ## Builders -/

/-- An abort signal; builds may share one. -/
abbrev AbortSignal := Nat

/-- How far the compiler of a build has come. -/
inductive Compilation where
  | compiling
  | settled (outcome : Except BuildFailure ReactBuildArtifact)
  | resumed
  deriving DecidableEq

/-- A call of `build`, with the sequence number it took. -/
structure ReactBuild where
  sequence : Nat
  signal : Option AbortSignal
  compilation : Compilation
  deriving DecidableEq

/-- A builder, the calls of `build` it has taken, and the aborted signals. -/
structure RevisionedReactBuilder where
  lastGood : Option ReactBuildArtifact
  sequence : Nat
  builds : List ReactBuild
  aborted : List AbortSignal
  deriving DecidableEq

/-- The moments of overlapping builds. -/
inductive BuildEvent where
  | build (signal : Option AbortSignal)
  | settle (index : Nat) (outcome : Except BuildFailure ReactBuildArtifact)
  | abort (signal : AbortSignal)
  | resume (index : Nat)
  deriving DecidableEq

namespace RevisionedReactBuilder

/-- A new builder. -/
def initial : RevisionedReactBuilder :=
  ⟨none, 0, [], []⟩

def getLastGood (builder : RevisionedReactBuilder) :
    Option ReactBuildArtifact :=
  builder.lastGood

/-- `signal?.aborted`. -/
def IsAborted (builder : RevisionedReactBuilder) (build : ReactBuild) : Prop :=
  ∃ signal ∈ build.signal, signal ∈ builder.aborted

instance (builder : RevisionedReactBuilder) (build : ReactBuild) :
    Decidable (builder.IsAborted build) :=
  match same : build.signal with
  | none => isFalse (by simp [IsAborted, same])
  | some signal =>
      decidable_of_iff (signal ∈ builder.aborted) (by simp [IsAborted, same])

/-- The `try` block after the compiler has settled. -/
def afterCompile
    (builder : RevisionedReactBuilder)
    (build : ReactBuild)
    (outcome : Except BuildFailure ReactBuildArtifact) :
    Except BuildFailure ReactBuildArtifact := do
  let artifact ← outcome
  check (¬(builder.IsAborted build ∨ build.sequence ≠ builder.sequence))
    buildSuperseded
  pure artifact

/-- The `catch` block: the last good artifact with a diagnostic, if any. -/
def fallback
    (builder : RevisionedReactBuilder)
    (failure : BuildFailure) :
    Except BuildFailure ReactBuildArtifact :=
  match builder.lastGood with
  | some artifact =>
      .ok { artifact with
        diagnostics := [⟨.missingSource, failure.message, none⟩] }
  | none => .error failure

/-- The rest of a build, with the promise that the caller gets. -/
def finish
    (builder : RevisionedReactBuilder)
    (build : ReactBuild)
    (outcome : Except BuildFailure ReactBuildArtifact) :
    RevisionedReactBuilder × Except BuildFailure ReactBuildArtifact :=
  match builder.afterCompile build outcome with
  | .ok artifact =>
      if artifact.diagnostics = [] then
        ({ builder with lastGood := some artifact }, .ok artifact)
      else
        (builder, .ok artifact)
  | .error failure => (builder, builder.fallback failure)

/-- Notes how far the compiler of a build has come. -/
def record
    (builder : RevisionedReactBuilder)
    (index : Nat)
    (build : ReactBuild)
    (compilation : Compilation) :
    RevisionedReactBuilder :=
  { builder with
    builds := builder.builds.set index { build with compilation } }

/--
One moment.  A compiler settles at most once and a build goes on at most once,
after its compiler has settled; the answer is what a build that goes on
returns.
-/
def step (builder : RevisionedReactBuilder) :
    BuildEvent → RevisionedReactBuilder ×
      Option (Except BuildFailure ReactBuildArtifact)
  | .build signal =>
      ({ builder with
          sequence := builder.sequence + 1
          builds := builder.builds ++
            [⟨builder.sequence + 1, signal, .compiling⟩] }, none)
  | .settle index outcome =>
      match builder.builds[index]? with
      | some build =>
          if build.compilation = .compiling then
            (builder.record index build (.settled outcome), none)
          else
            (builder, none)
      | none => (builder, none)
  | .abort signal =>
      ({ builder with aborted := signal :: builder.aborted }, none)
  | .resume index =>
      match builder.builds[index]? with
      | some build =>
          match build.compilation with
          | .settled outcome =>
              let finished := builder.finish build outcome
              (finished.1.record index build .resumed, some finished.2)
          | _ => (builder, none)
      | none => (builder, none)

/-! ## Completions that are good -/

/-- A build that completes, by its place in the order of starts. -/
structure Completion where
  index : Nat
  artifact : ReactBuildArtifact
  deriving DecidableEq

/--
The builds that complete clean, not aborted, and most recently started: no
build has been started after them.
-/
def IsGood
    (builder : RevisionedReactBuilder)
    (index : Nat)
    (build : ReactBuild)
    (artifact : ReactBuildArtifact) : Prop :=
  artifact.diagnostics = [] ∧
    ¬builder.IsAborted build ∧
    index + 1 = builder.builds.length

instance
    (builder : RevisionedReactBuilder)
    (index : Nat)
    (build : ReactBuild)
    (artifact : ReactBuildArtifact) :
    Decidable (builder.IsGood index build artifact) := by
  unfold IsGood
  infer_instance

/-- The good completion that a moment brings, if any. -/
def goodCompletion? (builder : RevisionedReactBuilder) :
    BuildEvent → Option Completion
  | .resume index =>
      match builder.builds[index]? with
      | some build =>
          match build.compilation with
          | .settled (.ok artifact) =>
              if builder.IsGood index build artifact then
                some ⟨index, artifact⟩
              else
                none
          | _ => none
      | none => none
  | _ => none

/-- The good completions of a log, in order. -/
def goodCompletions
    (log : List (Taken RevisionedReactBuilder BuildEvent
      (Option (Except BuildFailure ReactBuildArtifact)))) :
    List Completion :=
  log.filterMap fun entry => entry.before.goodCompletion? entry.call

/-! ## What one moment does -/

variable {builder : RevisionedReactBuilder} {index : Nat} {build : ReactBuild}

theorem getElem?_record
    (found : builder.builds[index]? = some build)
    (compilation : Compilation)
    (other : Nat) :
    (builder.record index build compilation).builds[other]? =
      if other = index then some { build with compilation }
      else builder.builds[other]? := by
  have bound : index < builder.builds.length :=
    (List.getElem?_eq_some_iff.mp found).1
  rw [record, List.getElem?_set]
  by_cases same : index = other
  · rw [if_pos same, if_pos same.symm, if_pos bound]
  · rw [if_neg same, if_neg (Ne.symm same)]

theorem forall_record
    (found : builder.builds[index]? = some build)
    {compilation : Compilation}
    {property : Nat → ReactBuild → Prop}
    (ignores : property index build →
      property index { build with compilation })
    (holds : ∀ other entry,
      builder.builds[other]? = some entry → property other entry) :
    ∀ other entry,
      (builder.record index build compilation).builds[other]? = some entry →
        property other entry := by
  intro other entry there
  have looked := getElem?_record found compilation other
  rw [there] at looked
  by_cases same : other = index
  · rw [if_pos same] at looked
    cases looked
    subst same
    exact ignores (holds _ _ found)
  · rw [if_neg same] at looked
    exact holds other entry looked.symm

/-- Only the last good artifact changes when a build finishes. -/
theorem finish_builds
    (builder : RevisionedReactBuilder)
    (build : ReactBuild)
    (outcome : Except BuildFailure ReactBuildArtifact) :
    (builder.finish build outcome).1.builds = builder.builds ∧
      (builder.finish build outcome).1.sequence = builder.sequence ∧
      (builder.finish build outcome).1.aborted = builder.aborted := by
  unfold finish
  split
  · split <;> exact ⟨rfl, rfl, rfl⟩
  · exact ⟨rfl, rfl, rfl⟩

/-- Sequence numbers count the builds in the order of their starts. -/
structure Numbered (builder : RevisionedReactBuilder) : Prop where
  sequence : builder.sequence = builder.builds.length
  builds : ∀ index build,
    builder.builds[index]? = some build → build.sequence = index + 1

theorem numbered_initial : Numbered initial where
  sequence := rfl
  builds := by simp [initial]

/-- The ways a moment changes the calls of `build`. -/
inductive BuildsChange
    (builder next : RevisionedReactBuilder) : BuildEvent → Prop where
  | started (signal : Option AbortSignal)
      (sequence : next.sequence = builder.sequence + 1)
      (builds : next.builds = builder.builds ++
        [⟨builder.sequence + 1, signal, .compiling⟩]) :
      BuildsChange builder next (.build signal)
  | recorded {event : BuildEvent} (index : Nat) (build : ReactBuild)
      (compilation : Compilation)
      (found : builder.builds[index]? = some build)
      (later : build.compilation ≠ .resumed)
      (sequence : next.sequence = builder.sequence)
      (builds : next.builds =
        (builder.record index build compilation).builds) :
      BuildsChange builder next event
  | same {event : BuildEvent}
      (sequence : next.sequence = builder.sequence)
      (builds : next.builds = builder.builds) :
      BuildsChange builder next event

theorem step_builds
    (builder : RevisionedReactBuilder)
    (event : BuildEvent) :
    BuildsChange builder (step builder event).1 event := by
  cases event with
  | build signal => exact .started signal rfl rfl
  | abort signal => exact .same rfl rfl
  | settle index outcome =>
      simp only [step]
      cases found : builder.builds[index]? with
      | none => exact .same rfl rfl
      | some build =>
          by_cases compiling : build.compilation = .compiling
          · simp only [if_pos compiling]
            exact .recorded index build _ found
              (by rw [compiling]; nofun) rfl rfl
          · simp only [if_neg compiling]
            exact .same rfl rfl
  | resume index =>
      simp only [step]
      cases found : builder.builds[index]? with
      | none => exact .same rfl rfl
      | some build =>
          cases reached : build.compilation with
          | compiling => simpa only [reached] using .same rfl rfl
          | resumed => simpa only [reached] using .same rfl rfl
          | settled outcome =>
              obtain ⟨builds, sequence, _⟩ :=
                finish_builds builder build outcome
              simp only [reached]
              refine .recorded index build .resumed found
                (by rw [reached]; nofun) sequence ?_
              rw [record, builds]
              rfl

section

variable (numbered : builder.Numbered)

include numbered

theorem Numbered.step
    (event : BuildEvent) :
    (step builder event).1.Numbered := by
  cases step_builds builder event with
  | same sequence builds =>
      exact ⟨by rw [sequence, builds, numbered.sequence],
        by rw [builds]; exact numbered.builds⟩
  | recorded index build compilation found later sequence builds =>
      refine ⟨?_, ?_⟩
      · rw [sequence, builds, numbered.sequence, record, List.length_set]
      · rw [builds]
        exact forall_record found (fun own => own) numbered.builds
  | started signal sequence builds =>
      refine ⟨?_, fun index build found => ?_⟩
      · rw [sequence, builds, numbered.sequence, List.length_append]
        rfl
      · rw [builds] at found
        rcases Nat.lt_trichotomy index builder.builds.length with
          before | rfl | beyond
        · rw [List.getElem?_append_left before] at found
          exact numbered.builds index build found
        · rw [List.getElem?_concat_length] at found
          cases found
          exact congrArg (· + 1) numbered.sequence
        · rw [List.getElem?_eq_none
            (by rw [List.length_append]; exact beyond)] at found
          cases found

/-- A build that is not superseded is the one started last. -/
theorem Numbered.sequence_eq_iff
    (found : builder.builds[index]? = some build) :
    build.sequence = builder.sequence ↔
      index + 1 = builder.builds.length := by
  rw [numbered.builds index build found, numbered.sequence]

theorem Numbered.finish_lastGood
    (found : builder.builds[index]? = some build)
    (artifact : ReactBuildArtifact) :
    (builder.finish build (.ok artifact)).1.lastGood =
      if builder.IsGood index build artifact then some artifact
      else builder.lastGood := by
  have latest := numbered.sequence_eq_iff found
  by_cases superseded :
      builder.IsAborted build ∨ build.sequence ≠ builder.sequence
  · have notGood : ¬builder.IsGood index build artifact := by
      rintro ⟨_, live, last⟩
      exact superseded.elim live fun older => older (latest.mpr last)
    rw [if_neg notGood]
    simp only [finish, afterCompile, check, bind, Except.bind,
      if_neg (not_not.mpr superseded)]
  · obtain ⟨live, last⟩ := not_or.mp superseded
    have isLast := latest.mp (not_not.mp last)
    have same : builder.IsGood index build artifact ↔
        artifact.diagnostics = [] :=
      ⟨fun good => good.1, fun clean => ⟨clean, live, isLast⟩⟩
    simp only [finish, afterCompile, check, bind, Except.bind, pure,
      Except.pure, if_pos superseded, same]
    split <;> rfl

/-- The last good artifact changes with good completions only. -/
theorem Numbered.step_lastGood
    (event : BuildEvent) :
    (RevisionedReactBuilder.step builder event).1.lastGood =
      ((builder.goodCompletion? event).map Completion.artifact).or
        builder.lastGood := by
  cases event with
  | build signal => rfl
  | abort signal => rfl
  | settle index outcome =>
      simp only [RevisionedReactBuilder.step, goodCompletion?]
      cases builder.builds[index]? with
      | none => rfl
      | some build =>
          simp only
          split <;> rfl
  | resume index =>
      simp only [RevisionedReactBuilder.step, goodCompletion?]
      cases found : builder.builds[index]? with
      | none => rfl
      | some build =>
          cases reached : build.compilation with
          | compiling =>
              simp only [reached]
              rfl
          | resumed =>
              simp only [reached]
              rfl
          | settled outcome =>
              cases outcome with
              | error failure =>
                  simp only [reached]
                  rfl
              | ok artifact =>
                  have finished := numbered.finish_lastGood found artifact
                  simp only [reached, record, finished]
                  split <;> rfl

end

variable {event : BuildEvent} {completion : Completion}

theorem goodCompletion?_eq_some :
    builder.goodCompletion? event = some completion ↔
      event = .resume completion.index ∧
        ∃ build, builder.builds[completion.index]? = some build ∧
          build.compilation = .settled (.ok completion.artifact) ∧
          builder.IsGood completion.index build completion.artifact := by
  constructor
  · intro completes
    unfold goodCompletion? at completes
    split at completes
    · rename_i index
      split at completes
      · rename_i build found
        split at completes
        · rename_i artifact settled
          split at completes
          · rename_i good
            cases completes
            exact ⟨rfl, build, found, settled, good⟩
          · cases completes
        · cases completes
      · cases completes
    · cases completes
  · rintro ⟨rfl, build, found, settled, good⟩
    simp only [goodCompletion?, found, settled, if_pos good]

theorem step_resumed
    (event : BuildEvent)
    (before : ∃ build, builder.builds[index]? = some build ∧
      build.compilation = .resumed) :
    ∃ build, (step builder event).1.builds[index]? = some build ∧
      build.compilation = .resumed := by
  obtain ⟨build, found, resumed⟩ := before
  refine ⟨build, ?_, resumed⟩
  cases step_builds builder event with
  | same sequence builds => rw [builds, found]
  | started signal sequence builds =>
      rw [builds, List.getElem?_append_left
        (List.getElem?_eq_some_iff.mp found).1, found]
  | recorded other changed compilation there later sequence builds =>
      have apart : index ≠ other := by
        rintro rfl
        cases found.symm.trans there
        exact later resumed
      rw [builds, getElem?_record there, if_neg apart, found]

theorem resumed_of_goodCompletion
    (completes : builder.goodCompletion? event = some completion) :
    ∃ build,
      (step builder event).1.builds[completion.index]? = some build ∧
        build.compilation = .resumed := by
  obtain ⟨rfl, build, found, settled, _⟩ :=
    goodCompletion?_eq_some.mp completes
  have builds := (finish_builds builder build (.ok completion.artifact)).1
  refine ⟨{ build with compilation := .resumed }, ?_, rfl⟩
  simp only [step, found, settled, record, builds]
  rw [List.getElem?_set_self (List.getElem?_eq_some_iff.mp found).1]

/-! ## What runs do -/

/-- How a log and the builder after it go together. -/
structure Tracks
    (log : List (Taken RevisionedReactBuilder BuildEvent
      (Option (Except BuildFailure ReactBuildArtifact))))
    (builder : RevisionedReactBuilder) : Prop where
  numbered : builder.Numbered
  last : builder.lastGood =
    (goodCompletions log).getLast?.map Completion.artifact
  resumed : ∀ completion ∈ goodCompletions log,
    ∃ build, builder.builds[completion.index]? = some build ∧
      build.compilation = .resumed
  ordered : (goodCompletions log).Pairwise fun earlier later =>
    earlier.index < later.index

theorem Tracks.index_lt
    {log : List (Taken RevisionedReactBuilder BuildEvent
      (Option (Except BuildFailure ReactBuildArtifact)))}
    (tracks : Tracks log builder)
    {earlier : Completion}
    (completes : builder.goodCompletion? event = some completion)
    (logged : earlier ∈ goodCompletions log) :
    earlier.index < completion.index := by
  obtain ⟨_, build, found, settled, _, _, last⟩ :=
    goodCompletion?_eq_some.mp completes
  obtain ⟨old, there, resumed⟩ := tracks.resumed earlier logged
  have bound := (List.getElem?_eq_some_iff.mp there).1
  have apart : earlier.index ≠ completion.index := by
    intro same
    rw [same, found] at there
    cases there
    cases resumed.symm.trans settled
  omega

/-- One more moment keeps the log and the builder together. -/
theorem Tracks.step
    {log : List (Taken RevisionedReactBuilder BuildEvent
      (Option (Except BuildFailure ReactBuildArtifact)))}
    (tracks : Tracks log builder)
    (event : BuildEvent) :
    Tracks (log ++ [take RevisionedReactBuilder.step builder event])
      (RevisionedReactBuilder.step builder event).1 := by
  have lastGood := tracks.numbered.step_lastGood event
  have grown : goodCompletions
      (log ++ [take RevisionedReactBuilder.step builder event]) =
        goodCompletions log ++ (builder.goodCompletion? event).toList := by
    rw [goodCompletions, List.filterMap_append]
    cases completes : builder.goodCompletion? event <;>
      simp [goodCompletions, take, completes]
  cases completes : builder.goodCompletion? event with
  | none =>
      rw [completes] at lastGood grown
      refine ⟨tracks.numbered.step event, ?_, ?_, ?_⟩
      · rw [lastGood, grown, tracks.last]
        simp
      · rw [grown, Option.toList_none, List.append_nil]
        exact fun completion logged =>
          step_resumed event (tracks.resumed completion logged)
      · rw [grown, Option.toList_none, List.append_nil]
        exact tracks.ordered
  | some completion =>
      rw [completes] at lastGood grown
      refine ⟨tracks.numbered.step event, ?_, ?_, ?_⟩
      · rw [lastGood, grown]
        simp
      · rw [grown, Option.toList_some, List.forall_mem_append]
        refine ⟨fun earlier logged =>
          step_resumed event (tracks.resumed earlier logged), ?_⟩
        intro added member
        cases List.mem_singleton.mp member
        exact resumed_of_goodCompletion completes
      · rw [grown, Option.toList_some, List.pairwise_append]
        refine ⟨tracks.ordered, List.pairwise_singleton _ _, ?_⟩
        intro earlier logged added member
        cases List.mem_singleton.mp member
        exact tracks.index_lt completes logged

theorem tracks_run (events : List BuildEvent) :
    Tracks (taken step initial events) (takeAll step initial events) := by
  have start : Tracks [] initial :=
    ⟨numbered_initial, rfl, by simp [goodCompletions],
      by simp [goodCompletions]⟩
  simpa using takeAll_tracks Tracks (fun _ _ => True)
    (fun _ _ event tracks _ => tracks.step event) start
    (fun _ _ => trivial)

/-- What never goes back: aborted signals, started builds, their signals. -/
structure Grows (builder next : RevisionedReactBuilder) : Prop where
  aborted : builder.aborted ⊆ next.aborted
  started : builder.builds.length ≤ next.builds.length
  signals : ∀ (index : Nat) (build : ReactBuild),
    builder.builds[index]? = some build →
      ∃ later : ReactBuild, next.builds[index]? = some later ∧
        later.signal = build.signal

theorem grows_step
    (builder : RevisionedReactBuilder)
    (event : BuildEvent) :
    Grows builder (step builder event).1 := by
  have aborted : builder.aborted ⊆ (step builder event).1.aborted := by
    cases event with
    | build signal => exact List.Subset.refl _
    | abort signal => exact List.subset_cons_self _ _
    | settle index outcome =>
        simp only [step]
        split
        · split <;> exact List.Subset.refl _
        · exact List.Subset.refl _
    | resume index =>
        simp only [step]
        split
        · split
          · rename_i build _ _ outcome _
            rw [record, (finish_builds builder build outcome).2.2]
            exact List.Subset.refl _
          · exact List.Subset.refl _
        · exact List.Subset.refl _
  cases step_builds builder event with
  | same sequence builds =>
      refine ⟨aborted, by rw [builds], fun index build found => ?_⟩
      exact ⟨build, by rw [builds, found], rfl⟩
  | started signal sequence builds =>
      refine ⟨aborted, by rw [builds, List.length_append]; omega, ?_⟩
      intro index build found
      refine ⟨build, ?_, rfl⟩
      rw [builds, List.getElem?_append_left
        (List.getElem?_eq_some_iff.mp found).1, found]
  | recorded index build compilation found later sequence builds =>
      refine ⟨aborted, by rw [builds, record, List.length_set], ?_⟩
      intro other entry there
      rw [builds, getElem?_record found]
      by_cases same : other = index
      · subst same
        cases found.symm.trans there
        exact ⟨_, if_pos rfl, rfl⟩
      · exact ⟨entry, by rw [if_neg same, there], rfl⟩

theorem Grows.trans
    {first second third : RevisionedReactBuilder}
    (early : Grows first second)
    (late : Grows second third) :
    Grows first third := by
  refine ⟨fun _ member => late.aborted (early.aborted member),
    early.started.trans late.started, ?_⟩
  intro index build found
  obtain ⟨later, there, same⟩ := early.signals index build found
  obtain ⟨last, last_there, last_same⟩ := late.signals index later there
  exact ⟨last, last_there, last_same.trans same⟩

theorem grows_run
    (builder : RevisionedReactBuilder)
    (events : List BuildEvent) :
    Grows builder (takeAll step builder events) :=
  takeAll_invariant (Grows builder) (fun _ _ => True)
    (fun state event grown _ => grown.trans (grows_step state event))
    ⟨List.Subset.refl _, Nat.le_refl _,
      fun _ build found => ⟨build, found, rfl⟩⟩
    (fun _ _ => trivial)

/-- The build is the one started last, and its signal is not aborted. -/
def IsCurrent (builder : RevisionedReactBuilder) (index : Nat) : Prop :=
  index + 1 = builder.builds.length ∧
    ∀ build : ReactBuild, builder.builds[index]? = some build →
      ¬builder.IsAborted build

theorem Grows.isCurrent
    {next : RevisionedReactBuilder}
    (grows : Grows builder next)
    (current : next.IsCurrent index)
    (started : index < builder.builds.length) :
    builder.IsCurrent index := by
  have bound := grows.started
  have last := current.1
  refine ⟨by omega, fun build found => ?_⟩
  rintro ⟨signal, passed, aborted⟩
  obtain ⟨later, there, same⟩ := grows.signals index build found
  exact current.2 later there
    ⟨signal, by rw [same]; exact passed, grows.aborted aborted⟩

/--
The last good preview over every run of overlapping builds.  It is the artifact
of the last good completion; good completions come in the order in which their
builds were started; a moment that brings none leaves the preview as it is; and
a build that completes well was the current one ever since its start.
-/
theorem getLastGood_run (events : List BuildEvent) :
    (takeAll step initial events).getLastGood =
        (goodCompletions (taken step initial events)).getLast?.map
          Completion.artifact ∧
      ((goodCompletions (taken step initial events)).Pairwise
        fun earlier later => earlier.index < later.index) ∧
      (∀ first event rest, events = first ++ event :: rest →
        (takeAll step initial first).goodCompletion? event = none →
          (takeAll step initial (first ++ [event])).getLastGood =
            (takeAll step initial first).getLastGood) ∧
      ∀ first middle event rest completion,
        events = first ++ middle ++ event :: rest →
        (takeAll step initial (first ++ middle)).goodCompletion? event =
          some completion →
        completion.index < (takeAll step initial first).builds.length →
          (takeAll step initial first).IsCurrent completion.index := by
  have tracks := tracks_run events
  refine ⟨tracks.last, tracks.ordered, ?_, ?_⟩
  · intro first event rest _ none
    rw [takeAll_append]
    exact ((tracks_run first).numbered.step_lastGood event).trans
      (by rw [none]; rfl)
  · intro first middle event rest completion _ completes started
    obtain ⟨_, build, found, _, _, live, last⟩ :=
      goodCompletion?_eq_some.mp completes
    rw [takeAll_append] at found live last
    refine (grows_run _ middle).isCurrent ⟨last, fun other there => ?_⟩
      started
    cases found.symm.trans there
    exact live

end RevisionedReactBuilder

end Selene.Generation
