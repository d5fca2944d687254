import LocoSounds.Proofs.Binary64.Exactness
import LocoSounds.Skin.Cache

/-! Caches of skins over any number of requests: when the manager is asked, what a lookup answers,
and what is counted. -/

namespace LocoSounds

/-- Something that is asked of a cache of skins, or that happens to its manager. -/
inductive SkinRequest where
  | lookup (carId : String)
  | invalidate
  | stats
  /-- From now on the manager answers something else. -/
  | change (report : SkinReport)
  deriving DecidableEq

/-- What is given back for a request. -/
inductive SkinAnswer where
  | skin (result : Except SkinFailure (Option String))
  /-- Whether there were skins to forget. -/
  | forgotten (had : Bool)
  | stats (stats : SkinStats)
  | changed

/-- A request in its turn. -/
structure SkinTurn where
  request : SkinRequest
  answer : SkinAnswer
  /-- What the manager answered, if it was asked meanwhile. -/
  asked : Option SkinReport

/-- A request for the skin of a car. -/
def SkinRequest.isLookup : SkinRequest → Bool
  | .lookup _ => true
  | _ => false

/-- What a request makes a manager answer from then on. -/
def SkinRequest.report? : SkinRequest → Option SkinReport
  | .change report => some report
  | _ => none

/-- The skins in an answer of a manager. -/
def SkinReport.skins? : SkinReport → Option Skins
  | .skins given => some given
  | _ => none

namespace SkinTurn

/-- The skins that were fetched in a turn. -/
def fetched? (turn : SkinTurn) : Option Skins := turn.asked.bind SkinReport.skins?

/-- The skins of the last fetch that succeeded since skins were forgotten, or since the start. -/
def lastFetched? (turns : List SkinTurn) : Option Skins :=
  (turns.reverse.takeWhile (·.request ≠ .invalidate)).findSome? fetched?

/-- What a manager answers after some turns, if it answered `report` before. -/
def lastReport (report : SkinReport) (turns : List SkinTurn) : SkinReport :=
  (turns.reverse.findSome? (·.request.report?)).getD report

/-- The number of lookups in some turns. -/
def lookups (turns : List SkinTurn) : Nat := turns.countP (·.request.isLookup)

/-- The number of turns in which the manager was asked. -/
def calls (turns : List SkinTurn) : Nat := turns.countP (·.asked.isSome)

/-- One more turn forgets what was fetched, adds a fetch of its own or leaves it at the last. -/
theorem lastFetched?_concat (turns : List SkinTurn) (turn : SkinTurn) :
    lastFetched? (turns ++ [turn]) =
      if turn.request = .invalidate then none else turn.fetched?.or (lastFetched? turns) := by
  -- Searched from the end, the new turn is the first one that is looked at.
  rw [lastFetched?, List.reverse_append, List.reverse_singleton, List.singleton_append,
    List.takeWhile_cons]
  by_cases forgets : turn.request = .invalidate
  · simp [forgets]
  · simp only [ne_eq, forgets, not_false_eq_true, decide_true, if_true, if_false,
      List.findSome?_cons]
    cases turn.fetched? <;> rfl

/-- After one more turn the manager answers what that turn made it answer, or what it did before. -/
theorem lastReport_concat (report : SkinReport) (turns : List SkinTurn) (turn : SkinTurn) :
    lastReport report (turns ++ [turn]) =
      turn.request.report?.getD (lastReport report turns) := by
  -- Searched from the end, the new turn is the first one that is looked at.
  rw [lastReport, List.reverse_append, List.reverse_singleton, List.singleton_append,
    List.findSome?_cons]
  cases turn.request.report? <;> rfl

/-- One more turn is counted if it is a lookup. -/
theorem lookups_concat (turns : List SkinTurn) (turn : SkinTurn) :
    lookups (turns ++ [turn]) = lookups turns + if turn.request.isLookup then 1 else 0 := by
  -- The turns are counted one by one, and this is one more.
  rw [lookups, List.countP_append, List.countP_singleton]
  rfl

/-- One more turn is counted if the manager is asked in it. -/
theorem calls_concat (turns : List SkinTurn) (turn : SkinTurn) :
    calls (turns ++ [turn]) = calls turns + if turn.asked.isSome then 1 else 0 := by
  -- The turns are counted one by one, and this is one more.
  rw [calls, List.countP_append, List.countP_singleton]
  rfl

end SkinTurn

namespace SkinCache

/-- What a cache gives back for a request, and the cache afterwards. -/
def answer (cache : SkinCache) : SkinRequest → SkinAnswer × SkinCache
  | .lookup carId =>
    let (skin, next) := cache.lookup carId
    (.skin skin, next)
  | .invalidate =>
    let (had, next) := cache.invalidate
    (.forgotten had, next)
  | .stats => (.stats cache.stats, cache)
  | .change report => (.changed, cache.withReport report)

/-- The turn of a request. The manager was asked in it if it has been asked more often since. -/
def turn (cache : SkinCache) (request : SkinRequest) : SkinTurn where
  request
  answer := (cache.answer request).1
  asked :=
    if cache.manager.calls < (cache.answer request).2.manager.calls then some cache.manager.report
    else none

/-- The turns of some requests, and the cache after the last. -/
def serve (cache : SkinCache) : List SkinRequest → List SkinTurn × SkinCache
  | [] => ([], cache)
  | request :: rest =>
    let (turns, last) := (cache.answer request).2.serve rest
    (cache.turn request :: turns, last)

variable (cache : SkinCache) (carId : String) (request : SkinRequest)

/-- What a lookup answers that has to ask the manager. -/
def answerFrom (carId : String) : SkinReport → Except SkinFailure (Option String)
  | .skins skins => .ok (skins.lookup carId)
  | .unavailable => .ok none
  | .failed => .error .managerFailed

/-- A lookup finds the car in the skins that are held and counts as a hit. Where none are held it
asks the manager, keeps the skins that it answers, and counts as a miss even if that breaks down. -/
theorem answer_lookup : cache.answer (.lookup carId) =
    match cache.snapshot with
    | some skins => (.skin (.ok (skins.lookup carId)), { cache with hits := cache.hits + 1 })
    | none => (.skin (answerFrom carId cache.manager.report),
        ⟨cache.manager.ask.2, cache.manager.report.skins?, cache.hits, cache.misses + 1⟩) := by
  -- What is held decides first, and without it what the manager reports.
  obtain ⟨⟨report, calls⟩, snapshot, hits, misses⟩ := cache
  cases snapshot with
  | some skins => rfl
  | none => cases report <;> rfl

/-- The manager is asked by a lookup where no skins are held, and by nothing else. -/
theorem asked_turn : (cache.turn request).asked =
    if request.isLookup ∧ cache.snapshot = none then some cache.manager.report else none := by
  -- Only a lookup can ask, and what was asked is told from the calls that the manager counts.
  cases request with
  | lookup carId =>
    rw [turn, answer_lookup]
    cases cache.snapshot <;> simp [SkinManager.ask, SkinRequest.isLookup]
  | _ => exact if_neg (Nat.lt_irrefl _)

/-- After a request those skins are held that were fetched for it, or else those held before it
unless it forgot them. -/
theorem snapshot_answer : (cache.answer request).2.snapshot =
    if request = .invalidate then none
    else (cache.turn request).fetched?.or cache.snapshot := by
  -- Of the requests only a lookup may fetch and only one forgets; the others leave what is held.
  cases request with
  | lookup carId =>
    rw [SkinTurn.fetched?, asked_turn, answer_lookup]
    cases cache.snapshot <;> simp [SkinRequest.isLookup]
  | invalidate => rfl
  | _ => rw [SkinTurn.fetched?, asked_turn]; rfl

/-- A manager answers the same after a request, unless that changed it. -/
theorem report_answer : (cache.answer request).2.manager.report =
    request.report?.getD cache.manager.report := by
  -- A lookup asks the manager without changing it, and other requests set what they name.
  cases request with
  | lookup carId =>
    rw [answer_lookup]
    cases cache.snapshot <;> rfl
  | _ => rfl

/-- A manager counts each turn in which it is asked. -/
theorem calls_answer : (cache.answer request).2.manager.calls =
    cache.manager.calls + if (cache.turn request).asked.isSome then 1 else 0 := by
  -- The manager is asked where the turn says that it was, and counts nothing else.
  cases request with
  | lookup carId =>
    rw [asked_turn, answer_lookup]
    cases cache.snapshot <;> rfl
  | _ => rw [asked_turn]; rfl

/-- Each turn in which the manager is asked is a miss. -/
theorem misses_answer : (cache.answer request).2.misses =
    cache.misses + if (cache.turn request).asked.isSome then 1 else 0 := by
  -- A miss is counted just where the manager is asked.
  cases request with
  | lookup carId =>
    rw [asked_turn, answer_lookup]
    cases cache.snapshot <;> rfl
  | _ => rw [asked_turn]; rfl

/-- Each lookup is a hit or a miss. -/
theorem hits_answer : (cache.answer request).2.hits + (cache.answer request).2.misses =
    cache.hits + cache.misses + if request.isLookup then 1 else 0 := by
  -- A lookup is one or the other, and no other request is counted.
  cases request with
  | lookup carId =>
    rw [answer_lookup]
    cases cache.snapshot with
    | some skins => exact Nat.add_right_comm _ _ _
    | none => rfl
  | _ => rfl

/-- What a cache holds and counts is what its turns come to, if the manager answered `report` before
the first. -/
structure Coherent (report : SkinReport) (turns : List SkinTurn) (cache : SkinCache) : Prop where
  held : cache.snapshot = SkinTurn.lastFetched? turns
  report : cache.manager.report = SkinTurn.lastReport report turns
  calls : cache.manager.calls = SkinTurn.calls turns
  misses : cache.misses = SkinTurn.calls turns
  lookups : cache.hits + cache.misses = SkinTurn.lookups turns

/-- A new cache holds and counts nothing. -/
theorem coherent_start (report : SkinReport) : Coherent report [] (start report) where
  held := rfl
  report := rfl
  calls := rfl
  misses := rfl
  lookups := rfl

variable {report : SkinReport} {turns : List SkinTurn} {cache}

/-- After a request a cache holds and counts what the turns come to with this one. -/
theorem Coherent.answer (coherent : Coherent report turns cache) (request : SkinRequest) :
    Coherent report (turns ++ [cache.turn request]) (cache.answer request).2 where
  held := by rw [snapshot_answer, coherent.held, SkinTurn.lastFetched?_concat]; rfl
  report := by rw [report_answer, coherent.report, SkinTurn.lastReport_concat]; rfl
  calls := by rw [calls_answer, coherent.calls, SkinTurn.calls_concat]
  misses := by rw [misses_answer, coherent.misses, SkinTurn.calls_concat]
  lookups := by rw [hits_answer, coherent.lookups, SkinTurn.lookups_concat]; rfl

/-- After some requests a cache holds and counts what the turns come to with theirs. -/
theorem Coherent.serve (coherent : Coherent report turns cache) (requests : List SkinRequest) :
    Coherent report (turns ++ (cache.serve requests).1) (cache.serve requests).2 := by
  -- By induction on the requests; each turn keeps what the cache holds in step with the turns.
  induction requests generalizing turns cache with
  | nil =>
    rw [SkinCache.serve, List.append_nil]
    exact coherent
  | cons request rest ih =>
    have later := ih (coherent.answer request)
    rwa [List.append_assoc, List.singleton_append] at later

/-- A run goes on from where the part of it before left the cache. -/
theorem serve_append (cache : SkinCache) (requests later : List SkinRequest) :
    cache.serve (requests ++ later) =
      ((cache.serve requests).1 ++ ((cache.serve requests).2.serve later).1,
        ((cache.serve requests).2.serve later).2) := by
  -- By induction on the earlier requests, from whatever cache they find.
  induction requests generalizing cache with
  | nil => rfl
  | cons request rest ih => simp only [List.cons_append, serve, ih]

/-- The part of lookups that found skins is a number from zero to one. -/
theorem hitRate_mem_unit (cache : SkinCache) : .zero ≤ cache.hitRate ∧ cache.hitRate ≤ .one := by
  -- Before the first lookup the rate is set to zero, and after it hits are some of all lookups.
  unfold hitRate
  dsimp only
  split
  · exact ⟨by decide, by decide⟩
  · -- No more lookups found skins than there were.
    have within := Binary64.ofRatio_mono (Nat.le_add_right cache.hits cache.misses)
      (cache.hits + cache.misses)
    rw [Binary64.ofRatio_self (by omega)] at within
    exact ⟨Binary64.zero_le_ofRatio _ _, within⟩

/--
A cache of skins holds the skins that were fetched last, whatever is asked of it and whatever its
manager answers meanwhile.

At each moment of a run the manager is asked exactly by a lookup that finds no skins fetched since
they were forgotten last or since the start, and it is then asked once.
A lookup finds the car in the skins of the last fetch that succeeded, its own included, however the
manager changed since. Where there are none, the manager has just been unavailable, and no skin is
known, or it has broken down, and so does the lookup.
Skins are held after a request exactly if a manager answered some, be they no car's, and they were
not forgotten since; forgetting tells whether any were held.
The misses are the times that the manager was asked, hits and misses together are the lookups, and
the part of hits is a number from zero to one.
-/
theorem serve_holds_last_fetch (report : SkinReport) (requests : List SkinRequest) :
    let turns := ((start report).serve requests).1
    let now := ((start report).serve requests).2
    let held := SkinTurn.lastFetched? turns
    (∀ next later, ((start report).serve (requests ++ next :: later)).1 =
      turns ++ now.turn next :: ((now.answer next).2.serve later).1) ∧
    (∀ request, (now.turn request).asked =
      if request.isLookup ∧ held = none then some (SkinTurn.lastReport report turns) else none) ∧
    (∀ carId, (now.turn (.lookup carId)).answer = .skin
      (match SkinTurn.lastFetched? (turns ++ [now.turn (.lookup carId)]) with
      | some skins => .ok (skins.lookup carId)
      | none =>
        if SkinTurn.lastReport report turns = .failed then .error .managerFailed else .ok none)) ∧
    (∀ request, (now.answer request).2.snapshot =
      SkinTurn.lastFetched? (turns ++ [now.turn request])) ∧
    (now.turn .invalidate).answer = .forgotten held.isSome ∧
    now.manager.calls = SkinTurn.calls turns ∧
    ∃ stats, (now.turn .stats).answer = .stats stats ∧
      stats.cached = held.isSome ∧ stats.size = (held.getD []).length ∧
      stats.misses = SkinTurn.calls turns ∧
      stats.hits + stats.misses = SkinTurn.lookups turns ∧
      stats.hitRate = (if SkinTurn.lookups turns = 0 then .zero
        else .ofRatio stats.hits (SkinTurn.lookups turns)) ∧
      .zero ≤ stats.hitRate ∧ stats.hitRate ≤ .one := by
  -- The turns up to the moment say what is held and counted, and the answers are read off that.
  intro turns now held
  have coherent : Coherent report turns now := (coherent_start report).serve requests
  have after : ∀ request, Coherent report (turns ++ [now.turn request]) (now.answer request).2 :=
    coherent.answer
  refine ⟨fun next later => ?_, fun request => ?_, fun carId => ?_,
    fun request => (after request).held, ?_, coherent.calls, now.stats, rfl, ?_, ?_,
    coherent.misses, coherent.lookups, ?_, now.hitRate_mem_unit⟩
  · rw [serve_append]
    rfl
  · rw [asked_turn, coherent.held, coherent.report]
  · rw [← (after _).held, turn, answer_lookup, ← coherent.report]
    cases now.snapshot with
    | some skins => rfl
    | none => cases now.manager.report <;> rfl
  · exact congrArg (SkinAnswer.forgotten ·.isSome) coherent.held
  · exact congrArg Option.isSome coherent.held
  · exact congrArg (fun held : Option Skins => (held.getD []).length) coherent.held
  · rw [← coherent.lookups]
    rfl

/-- A manager without skins is not asked again, one that is unavailable or breaks down is. -/
example : (((start .failed).serve [.lookup "L-1", .change .unavailable, .lookup "L-1",
    .change (.skins []), .lookup "L-1", .change (.skins [("L-1", "Rusty")]), .lookup "L-1",
    .invalidate, .lookup "L-1"]).1.filterMap (·.asked)) =
      [.failed, .unavailable, .skins [], .skins [("L-1", "Rusty")]] := by
  decide

end SkinCache

end LocoSounds
