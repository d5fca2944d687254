import LocoSounds.Draw.Seeded
import Mathlib.Data.List.DropRight

/-! Draws of a seed over any number of requests: they go on like those of a new stream. -/

namespace LocoSounds

/-- Something that is asked of a stream of draws. -/
inductive DrawRequest where
  | draw
  /-- The stream starts over, from another seed if one is given. -/
  | reset (seed : Option Int)
  deriving DecidableEq

namespace DrawRequest

/-- The seed that a request gives. -/
def seed? : DrawRequest → Option Int
  | .draw => none
  | .reset seed => seed

/-- The seed that was given last, or the one before if none was. -/
def lastSeed (seed : Int) (requests : List DrawRequest) : Int :=
  (requests.filterMap seed?).getLast?.getD seed

/-- The number of draws since the stream started over, or since the first request. -/
def drawsSince (requests : List DrawRequest) : Nat :=
  -- These are the draws at the end of the list, up to where it was asked for anything else.
  (requests.rtakeWhile (· = .draw)).length

/-- One more request leaves the seed as it was unless it gives another. -/
theorem lastSeed_concat (seed : Int) (requests : List DrawRequest) (request : DrawRequest) :
    lastSeed seed (requests ++ [request]) = request.seed?.getD (lastSeed seed requests) := by
  -- The seeds are gathered in order, and the last of them is asked for.
  unfold lastSeed
  rw [List.filterMap_append]
  -- The last of the seeds given is that of the new request, if it has one.
  cases given : request.seed? <;> simp [given]

/-- One more draw is counted, and to start over is to count from zero. -/
theorem drawsSince_concat (requests : List DrawRequest) (request : DrawRequest) :
    drawsSince (requests ++ [request]) =
      if request = .draw then drawsSince requests + 1 else 0 := by
  -- The requests are read from the last one backwards, as long as they are draws.
  unfold drawsSince
  rw [List.rtakeWhile_concat]
  by_cases drawn : request = .draw <;> simp [drawn]

end DrawRequest

namespace SeededDraws

/-- The number that a request draws, if it is a draw, and the stream afterwards. -/
def answer (draws : SeededDraws) : DrawRequest → Option Binary64 × SeededDraws
  | .draw =>
    let (number, next) := draws.draw
    (some number, next)
  | .reset seed => (none, draws.reset seed)

/-- What each of some requests draws, and the stream after the last. -/
def serve (draws : SeededDraws) : List DrawRequest → List (Option Binary64) × SeededDraws
  | [] => ([], draws)
  | request :: rest =>
    -- A request that draws no number has its place among the answers all the same.
    let (drawn, next) := draws.answer request
    let (numbers, last) := next.serve rest
    (drawn :: numbers, last)

variable (draws : SeededDraws)

/-- A draw is counted. -/
@[simp] theorem count_draw : draws.draw.2.count = draws.count + 1 := rfl

/-- A draw leaves the seed as it is. -/
@[simp] theorem seed_draw : draws.draw.2.seed = draws.seed := rfl

/-- A draw leaves the name as it is. -/
@[simp] theorem name_draw : draws.draw.2.name = draws.name := rfl

/-- One draw more comes after all the others. -/
theorem take_succ (n : Nat) : draws.take (n + 1) =
    ((draws.take n).1 ++ [(draws.take n).2.draw.1], (draws.take n).2.draw.2) := by
  -- The first draw of all leaves one draw less to be taken from what follows it.
  induction n generalizing draws with
  | zero => rfl
  | succ n ih =>
    have later := ih draws.draw.2
    rw [take]
    simp only [later]
    rfl

/-- As many numbers are drawn as are taken. -/
@[simp] theorem length_take (n : Nat) : (draws.take n).1.length = n := by
  -- By induction on the number taken; each step puts one draw behind the others.
  induction n with
  | zero => rfl
  | succ n ih => simp [take_succ, ih]

/-- Each draw is counted. -/
@[simp] theorem count_take (n : Nat) : (draws.take n).2.count = draws.count + n := by
  -- By induction on the number taken, with one draw counted in each step.
  induction n with
  | zero => rfl
  | succ n ih =>
    rw [take_succ, count_draw, ih]
    omega

/-- Draws leave the seed as it is. -/
@[simp] theorem seed_take (n : Nat) : (draws.take n).2.seed = draws.seed := by
  -- By induction on the number taken, since no single draw touches the seed.
  induction n with
  | zero => rfl
  | succ n ih => rw [take_succ, seed_draw, ih]

/-- Draws leave the name as it is. -/
@[simp] theorem name_take (n : Nat) : (draws.take n).2.name = draws.name := by
  -- By induction on the number taken, since no single draw touches the name.
  induction n with
  | zero => rfl
  | succ n ih => rw [take_succ, name_draw, ih]

/-- The draw after some others is the one that stands behind them when one more is taken. -/
theorem getElem?_take_succ (n : Nat) :
    (draws.take (n + 1)).1[n]? = some (draws.take n).2.draw.1 := by
  -- The earlier draws fill the places before it, so it is the first of what comes behind them.
  rw [take_succ, List.getElem?_append_right (by simp)]
  simp

/-- A run goes on from where the part of it before left the stream. -/
theorem serve_append (requests later : List DrawRequest) :
    draws.serve (requests ++ later) =
      ((draws.serve requests).1 ++ ((draws.serve requests).2.serve later).1,
        ((draws.serve requests).2.serve later).2) := by
  -- By induction on the earlier requests, from whatever stream they find.
  induction requests generalizing draws with
  | nil => rfl
  | cons request rest ih => simp only [List.cons_append, serve, ih]

/-- From a number of draws of a stream, a draw leads to one more and a reset to none of a new one. -/
theorem answer_take (seed : Int) (name : String) (n : Nat) (request : DrawRequest) :
    (((ofSeed seed name).take n).2.answer request).2 =
      ((ofSeed (request.seed?.getD seed) name).take (if request = .draw then n + 1 else 0)).2 := by
  -- The two kinds of request: one takes the next draw, the other forgets those taken.
  cases request with
  | draw =>
    rw [if_pos rfl, take_succ]
    rfl
  | reset other =>
    rw [if_neg nofun]
    -- The stream starts over under its own name, and keeps its seed if no other is given.
    show ofSeed (other.getD ((ofSeed seed name).take n).2.seed) ((ofSeed seed name).take n).2.name =
      ofSeed (other.getD seed) name
    rw [seed_take, name_take]
    rfl

/-- After any requests a stream is where a new one of its seed is after as many draws as it took since
it started over. -/
theorem serve_eq_take (seed : Int) (name : String) (requests : List DrawRequest) :
    ((ofSeed seed name).serve requests).2 =
      ((ofSeed (DrawRequest.lastSeed seed requests) name).take
        (DrawRequest.drawsSince requests)).2 := by
  -- Each request is looked at when all before it have been answered.
  induction requests using List.reverseRecOn with
  | nil => rfl
  | append_singleton requests request ih =>
    rw [serve_append, ih, DrawRequest.lastSeed_concat, DrawRequest.drawsSince_concat]
    exact answer_take _ name _ request

end SeededDraws

end LocoSounds
