import VideoGate.Poll.Session

/-!
# Polling a feed

A feed is a source that is known in advance: what it gives at each poll, and the last of it for
ever.  A session that is polled from a feed shows how ticks and single polls share one source.
-/

namespace VideoGate

/-- What a source gives at each poll, the last outcome for ever. -/
abbrev Feed := List (Except Failure Sample)

namespace Feed

/-- The next outcome of a feed; one without outcomes fails. -/
def next : Feed → Except Failure Sample
  | [] => .error .noSamples
  | taken :: _ => taken

def rest : Feed → Feed
  | [] => []
  | [taken] => [taken]
  | _ :: feed => feed

end Feed

structure Polling where
  session : Session := .new
  feed : Feed
  /-- What the task has told, the last notice first. -/
  told : List Notice := []

namespace Polling

/-- A tick of the background task, which takes nothing once it has ended. -/
def tick (verbose : Bool) (polling : Polling) : Polling :=
  if polling.session.isRunning then
    let (session, notices) := polling.session.tick verbose polling.feed.next
    { session, feed := polling.feed.rest, told := notices.reverse ++ polling.told }
  else polling

def notices (polling : Polling) : List Notice := polling.told.reverse

def log (polling : Polling) : List LogRecord := polling.notices.filterMap Notice.record?

def ticks (verbose : Bool) : Nat → Polling → Polling
  | 0, polling => polling
  | count + 1, polling => ticks verbose count (polling.tick verbose)

/-- A single poll: its outcome, and the polling afterwards. -/
def pollOnce (polling : Polling) : Except Failure Unit × Polling :=
  let (outcome, session) := polling.session.pollOnce polling.feed.next
  (outcome, { polling with session, feed := polling.feed.rest })

/-- So many single polls: their outcomes in order, and the polling afterwards. -/
def polls : Nat → Polling → List (Except Failure Unit) × Polling
  | 0, polling => ([], polling)
  | count + 1, polling =>
    let (outcome, polling) := polling.pollOnce
    let (outcomes, polling) := polls count polling
    (outcome :: outcomes, polling)

end Polling

end VideoGate
