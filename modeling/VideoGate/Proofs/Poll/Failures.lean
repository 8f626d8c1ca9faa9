import VideoGate.Poll.Session
import VideoGate.Proofs.Stats.Latest

/-!
# Polls that fail

A session is polled by its background task and by whoever holds it, and its source may fail at any
of these polls.  A poll that fails leaves the session as it was, so it could as well be left out
(`Session.after_filter`, `Session.answersTo_filter`), and a session holds what its collector makes
of the samples alone (`Session.failures_leave_no_trace`).
-/

namespace VideoGate

/-- A poll of a session, with what the source gives. -/
inductive Poll where
  /-- A tick of the background task. -/
  | tick (verbose : Bool) (given : Except Failure Sample)
  /-- A single poll by whoever holds the session. -/
  | once (given : Except Failure Sample)

namespace Poll

/-- What the source gives. -/
def given : Poll → Except Failure Sample
  | tick _ given => given
  | once given => given

/-- The sample that the source gives, if it gives one. -/
def sample? (poll : Poll) : Option Sample := poll.given.toOption

/-- Does the source fail, other than by a defect? -/
def fails (poll : Poll) : Bool :=
  match poll.given with
  | .error failure => !failure.isDefect
  | .ok _ => false

end Poll

/-- What comes of a poll. -/
inductive PollAnswer where
  /-- The task has told the operator something. -/
  | told (notices : List Notice)
  | returned (outcome : Except Failure Unit)

namespace Session

/-- A poll: what comes of it, and the session afterwards. -/
def poll (session : Session) : Poll → PollAnswer × Session
  | .tick verbose given =>
    let (session, notices) := session.tick verbose given
    (.told notices, session)
  | .once given =>
    let (outcome, session) := session.pollOnce given
    (.returned outcome, session)

/-- The session after polls, one at a time. -/
def after (session : Session) : List Poll → Session
  | [] => session
  | poll :: polls => (session.poll poll).2.after polls

/-- What comes of polls, one at a time. -/
def answersTo (session : Session) : List Poll → List (Poll × PollAnswer)
  | [] => []
  | poll :: polls => (poll, (session.poll poll).1) :: (session.poll poll).2.answersTo polls

/-- The sample that a poll gets, if any: a task that has ended does not ask for one. -/
def sampleAt? (session : Session) : Poll → Option Sample
  | .tick _ given => if session.isRunning then given.toOption else none
  | .once given => given.toOption

/-- The samples that polls get, in order. -/
def samplesAt (session : Session) : List Poll → List Sample
  | [] => []
  | poll :: polls => (session.sampleAt? poll).toList ++ (session.poll poll).2.samplesAt polls

/-! ## One poll -/

variable {session : Session} {sample : Sample} {report : IntervalReport Float}
  {next : Collector Float}

theorem tick_of_ended (h : session.isRunning = false) (verbose : Bool)
    (given : Except Failure Sample) : session.tick verbose given = (session, []) := by
  unfold tick
  rw [h]
  rfl

/-- The tick of a task that runs, at which its source fails. -/
theorem tick_error (h : session.isRunning = true) (verbose : Bool) (failure : Failure) :
    session.tick verbose (.error failure) =
      if failure.isDefect then session.endedBy failure
      else (session, [notice .warn ("Error sampling stats maps: " ++ failure.chain)]) :=
  if_pos h

/-- The tick of a task that runs, at which a sample is taken in. -/
theorem tick_ok (hrunning : session.isRunning = true) (verbose : Bool)
    (h : (Collector.takeIn sample).perform session.collector = (.ok report, next)) :
    session.tick verbose (.ok sample) =
      ({ session with collector := next },
        progressNotices verbose (session.collector.samples == 0) sample report) := by
  refine (if_pos hrunning).trans ?_
  simp only [h]

/-- The tick of a task that runs, at which a sample is refused. -/
theorem tick_refused (hrunning : session.isRunning = true) (verbose : Bool) {fault : StatsFault}
    (h : (Collector.takeIn sample).perform session.collector = (.error fault, next)) :
    session.tick verbose (.ok sample) =
      { session with collector := next }.endedBy (.stats fault) := by
  refine (if_pos hrunning).trans ?_
  simp only [h]

/-- A single poll at which a sample is taken in. -/
theorem pollOnce_ok (h : (Collector.takeIn sample).perform session.collector = (.ok report, next)) :
    session.pollOnce (.ok sample) = (.ok (), { session with collector := next }) := by
  unfold pollOnce
  simp only [h]
  rfl

/-- **A poll that fails leaves the session as it was.** -/
theorem poll_of_fails {poll : Poll} (h : poll.fails = true) (session : Session) :
    (session.poll poll).2 = session := by
  cases poll with
  | once given =>
      cases given with
      | ok sample => cases h
      | error failure => rfl
  | tick verbose given =>
      show (session.tick verbose given).1 = session
      cases given with
      | ok sample => cases h
      | error failure =>
          have hdefect : ¬ failure.isDefect = true := by simpa [Poll.fails, Poll.given] using h
          cases hrunning : session.isRunning with
          | false => rw [tick_of_ended hrunning]
          | true => rw [tick_error hrunning, if_neg hdefect]

/-- What a collector makes of the sample that a poll gets. -/
theorem collector_poll (session : Session) (poll : Poll) :
    (session.poll poll).2.collector =
      (Collector.offerAll (session.sampleAt? poll).toList session.collector).2 := by
  cases poll with
  | once given => cases given <;> rfl
  | tick verbose given =>
      show (session.tick verbose given).1.collector = _
      unfold sampleAt?
      cases hrunning : session.isRunning with
      | false =>
          rw [tick_of_ended hrunning]
          rfl
      | true =>
          cases given with
          | error failure =>
              rw [tick_error hrunning]
              split <;> rfl
          | ok sample =>
              show _ = ((Collector.takeIn sample).perform session.collector).2
              rcases hrecord : (Collector.takeIn sample).perform session.collector with
                ⟨_ | _, next⟩
              · rw [tick_refused hrunning verbose hrecord]
                rfl
              · rw [tick_ok hrunning verbose hrecord]

/-! ## Series of polls -/

theorem collector_after (session : Session) (polls : List Poll) :
    (session.after polls).collector =
      (Collector.offerAll (session.samplesAt polls) session.collector).2 := by
  induction polls generalizing session with
  | nil => rfl
  | cons poll polls ih =>
      rw [after, samplesAt, Collector.offerAll_append, ← collector_poll]
      exact ih (session.poll poll).2

/-- The session in the end would be the same without the polls that fail. -/
theorem after_filter (session : Session) (polls : List Poll) :
    session.after (polls.filter fun poll => !poll.fails) = session.after polls := by
  induction polls generalizing session with
  | nil => rfl
  | cons poll polls ih =>
      cases hfails : poll.fails with
      | true => rw [List.filter_cons_of_neg (by simp [hfails]), after, poll_of_fails hfails, ih]
      | false => rw [List.filter_cons_of_pos (by simp [hfails]), after, after, ih]

/-- What comes of the other polls would be the same without those that fail. -/
theorem answersTo_filter (session : Session) (polls : List Poll) :
    session.answersTo (polls.filter fun poll => !poll.fails) =
      (session.answersTo polls).filter fun answered => !answered.1.fails := by
  induction polls generalizing session with
  | nil => rfl
  | cons poll polls ih =>
      cases hfails : poll.fails with
      | true =>
          rw [List.filter_cons_of_neg (by simp [hfails]), answersTo,
            List.filter_cons_of_neg (by simp [hfails]), poll_of_fails hfails, ih]
      | false =>
          rw [List.filter_cons_of_pos (by simp [hfails]), answersTo, answersTo,
            List.filter_cons_of_pos (by simp [hfails]), ih]

/-- The sample that the latest one of a session is told against. -/
theorem latest_after (polls : List Poll) :
    (new.after polls).collector.latest = (keptFrom id none (new.samplesAt polls)).getLast? := by
  have hnone : new.collector.latest = (none : Option Sample).map id := rfl
  have hlatest := Collector.latest_offerAll id hnone (new.samplesAt polls)
  rw [List.map_id, Option.or_none, Option.map_id] at hlatest
  rw [collector_after]
  exact hlatest

/-- The first sample of a session is told apart from the others by their number. -/
theorem samples_after (polls : List Poll) :
    ((new.after polls).collector.samples == 0) = (new.after polls).collector.latest.isNone := by
  have hnew : new.collector.CountsFromNone := iff_of_true rfl rfl
  have hcounts := hnew.last (new.samplesAt polls)
  rw [← collector_after] at hcounts
  rw [Bool.eq_iff_iff, beq_iff_eq, Option.isNone_iff_eq_none]
  exact hcounts

theorem sampleAt?_of_running (h : session.isRunning = true) (poll : Poll) :
    session.sampleAt? poll = poll.sample? := by
  cases poll with
  | tick verbose given => exact if_pos h
  | once given => rfl

theorem poll_of_tookIn {poll : Poll} (hrunning : session.isRunning = true)
    (hsample : poll.sample? = some sample)
    (htook : session.collector.TookIn sample report next) :
    (session.poll poll).2 = { session with collector := next } := by
  have hrecord := Collector.perform_takeIn_eq_ok_iff.mpr htook
  have hgiven : poll.given = .ok sample := by
    unfold Poll.sample? at hsample
    cases hgiven : poll.given with
    | error failure => simp [hgiven, Except.toOption] at hsample
    | ok given => simpa [hgiven, Except.toOption] using hsample
  cases poll with
  | tick verbose given =>
      obtain rfl : given = .ok sample := hgiven
      show (session.tick verbose (.ok sample)).1 = _
      rw [tick_ok hrunning verbose hrecord]
  | once given =>
      obtain rfl : given = .ok sample := hgiven
      show (session.pollOnce (.ok sample)).2 = _
      rw [pollOnce_ok hrecord]

/-- As long as every sample is taken in and the source has no defect, the task goes on, and each
sample reaches the collector. -/
theorem after_of_takeInAll {polls : List Poll} (hrunning : session.isRunning = true)
    (hdefects : ∀ poll ∈ polls, poll.sample? = none → poll.fails = true)
    {reports : List (IntervalReport Float)} {last : Collector Float}
    (htook : session.collector.TookInAll (polls.filterMap Poll.sample?) reports last) :
    session.after polls = { session with collector := last } ∧
      session.samplesAt polls = polls.filterMap Poll.sample? := by
  induction polls generalizing session reports with
  | nil =>
      cases htook
      exact ⟨rfl, rfl⟩
  | cons poll polls ih =>
      rw [List.forall_mem_cons] at hdefects
      rw [after, samplesAt, sampleAt?_of_running hrunning]
      cases hsample : poll.sample? with
      | none =>
          rw [List.filterMap_cons_none hsample] at htook ⊢
          rw [poll_of_fails (hdefects.1 hsample)]
          exact ih hrunning hdefects.2 htook
      | some sample =>
          rw [List.filterMap_cons_some hsample] at htook ⊢
          cases htook with
          | @cons _ middle _ _ _ _ _ hfirst hrest =>
              rw [poll_of_tookIn hrunning hsample hfirst]
              have hstill : ({ session with collector := middle } : Session).isRunning = true :=
                hrunning
              obtain ⟨hafter, hsamples⟩ := ih hstill hdefects.2 hrest
              rw [hafter, hsamples]
              exact ⟨rfl, rfl⟩

/-- **Failures leave no trace.**  After any polls, taken one at a time, a session holds what its
collector makes of the samples that it got, in their order.  It would hold the same without the
polls that fail, and the same would have become of the others.  One more poll that fails hands on
its failure, or the task tells it and goes on; and one that gets a sample tells it against the last
sample that was kept.  As long as no sample is refused and the source has no defect, the task runs
on, and these are all the samples of the source. -/
theorem failures_leave_no_trace (polls : List Poll) :
    let session := new.after polls
    let samples := new.samplesAt polls
    let lastKept := (keptFrom id none samples).getLast?
    session.collector = (Collector.offerAll samples .new).2 ∧
    new.after (polls.filter fun poll => !poll.fails) = session ∧
    new.answersTo (polls.filter fun poll => !poll.fails) =
      ((new.answersTo polls).filter fun answered => !answered.1.fails) ∧
    (∀ failure, session.pollOnce (.error failure) = (.error failure, session)) ∧
    (∀ verbose failure, failure.isDefect = false →
      (session.tick verbose (.error failure)).1 = session) ∧
    (∀ sample report next,
      (Collector.takeIn sample).perform session.collector = (.ok report, next) →
        report = (lastKept.getD sample).reportTo sample ∧
        session.pollOnce (.ok sample) = (.ok (), { session with collector := next }) ∧
        (session.isRunning = true → ∀ verbose, session.tick verbose (.ok sample) =
          ({ session with collector := next },
            progressNotices verbose lastKept.isNone sample report))) ∧
    ∀ reports last,
      (Collector.takeInAll (polls.filterMap Poll.sample?)).perform .new = (.ok reports, last) →
      (∀ poll ∈ polls, poll.sample? = none → poll.fails = true) →
        session = { collector := last, isRunning := true } ∧
        samples = polls.filterMap Poll.sample? ∧ keptFrom id none samples = samples := by
  intro session samples lastKept
  have hlatest : session.collector.latest = lastKept := latest_after polls
  refine ⟨collector_after new polls, after_filter new polls, answersTo_filter new polls,
    fun _ => rfl, ?quiet, ?told, ?all⟩
  case quiet =>
    intro verbose failure hdefect
    have hfails : (Poll.tick verbose (.error failure)).fails = true := by
      simp [Poll.fails, Poll.given, hdefect]
    exact poll_of_fails hfails session
  case told =>
    intro sample report next hrecord
    have htook := Collector.perform_takeIn_eq_ok_iff.mp hrecord
    refine ⟨?_, pollOnce_ok hrecord, ?_⟩
    · rw [htook.report_eq, Collector.precursor, hlatest]
    · intro hrunning verbose
      have hfirst : (session.collector.samples == 0) = lastKept.isNone := by
        rw [← hlatest]
        exact samples_after polls
      rw [tick_ok hrunning verbose hrecord, hfirst]
  case all =>
    intro reports last hrecorded hdefects
    have htook := Collector.perform_takeInAll_eq_ok_iff.mp hrecorded
    have hrunning : new.isRunning = true := rfl
    obtain ⟨hafter, hsamples⟩ := after_of_takeInAll hrunning hdefects htook
    refine ⟨hafter, hsamples, ?_⟩
    rw [show samples = _ from hsamples]
    exact htook.keptFrom_eq

/-- Ticks and single polls that fail before the first sample and behind it.  The task still runs,
and tells the growth from the first sample to the second. -/
theorem failures_leave_no_trace_mixed :
    let gone : Failure := .source "map gone"
    let sample := fun dropped forwarded =>
      { (default : Sample) with video := .ofList [0, 0, 0, 0, dropped, forwarded] }
    let polls : List Poll :=
      [.tick false (.error gone), .once (.ok (sample 5 1)), .tick true (.error gone),
        .once (.error gone)]
    let session := new.after polls
    ∃ reports last report next,
      (Collector.takeInAll (polls.filterMap Poll.sample?)).perform .new = (.ok reports, last) ∧
      (∀ poll ∈ polls, poll.sample? = none → poll.fails = true) ∧
      session = { collector := last, isRunning := true } ∧ gone.isDefect = false ∧
      (session.tick true (.error gone)).1 = session ∧
      (Collector.takeIn (sample 9 2)).perform session.collector = (.ok report, next) ∧
      session.tick true (.ok (sample 9 2)) = ({ session with collector := next },
        progressNotices true false (sample 9 2) ((sample 5 1).reportTo (sample 9 2))) := by
  intro gone sample polls session
  have hdefects : ∀ poll ∈ polls, poll.sample? = none → poll.fails = true := by decide
  obtain ⟨last, report, hfirst⟩ : ∃ last report,
      (Collector.new : Collector Float).TookIn (sample 5 1) report last :=
    ⟨_, _, by decide +kernel, by decide +kernel, rfl, rfl⟩
  have hrecorded : (Collector.takeInAll (polls.filterMap Poll.sample?)).perform .new =
      (.ok [report], last) :=
    Collector.perform_takeInAll_eq_ok_iff.mpr (.cons hfirst .nil)
  obtain ⟨-, -, -, -, hquiet, htold, hall⟩ := failures_leave_no_trace polls
  obtain ⟨hsession, hsamples, hkept⟩ := hall _ last hrecorded hdefects
  have hprecursor : last.precursor (sample 9 2) = sample 5 1 := by
    rw [Collector.precursor, hfirst.latest]
    rfl
  obtain ⟨next, hnext⟩ : ∃ next,
      last.TookIn (sample 9 2) ((sample 5 1).reportTo (sample 9 2)) next := by
    refine ⟨_, ?_, ?_, congrArg (Sample.reportTo · _) hprecursor.symm, rfl⟩
    · rw [hprecursor]
      decide +kernel
    · rw [hfirst.toNat_samples]
      decide +kernel
  have hcollector : session.collector = last := congrArg Session.collector hsession
  have hrecord := Collector.perform_takeIn_eq_ok_iff.mpr hnext
  rw [← hcollector] at hrecord
  obtain ⟨-, -, htick⟩ := htold (sample 9 2) _ next hrecord
  have htick := htick (congrArg Session.isRunning hsession) true
  rw [hkept, hsamples] at htick
  exact ⟨_, last, _, next, hrecorded, hdefects, hsession, rfl, hquiet true gone rfl, hrecord, htick⟩

end Session

end VideoGate
