import Mathlib.Data.List.Perm.Subperm
import DocQuery.Eval.Context
import DocQuery.Regex.Library

/-! The cache of patterns answers what compiling answers, whatever is evicted, and never outgrows its capacity.
As long as all patterns asked for fit into it, each of them is fresh once and each bad one reported once. Otherwise a
bad one may be reported again, depending on what stays in the cache. -/
namespace DocQuery

namespace PatternCache

/-- Of a full cache, as many entries go as are evicted at once, and the others stay in some order. -/
def Retention.Lawful (keep : Retention) : Prop :=
  ∀ entries, capacity ≤ entries.length → ∃ gone, gone.length = evicted ∧ (gone ++ keep entries).Perm entries

theorem keepNewest_lawful : Retention.Lawful keepNewest := by
  intro entries full
  refine ⟨entries.drop (entries.length - evicted), ?_, ?_⟩
  · rw [List.length_drop]
    have : evicted ≤ capacity := by decide
    omega
  · exact List.perm_append_comm.trans (by rw [keepNewest, List.take_append_drop])

/-- A request, with the choice of what stays should the cache be full. -/
structure Call where
  request : PatternRequest
  keep : Retention

def ask (cache : PatternCache) (call : Call) : Answer := cache.get call.keep call.request

/-- The cache after calls. -/
def after (cache : PatternCache) (calls : List Call) : PatternCache :=
  calls.foldl (fun cache call => (cache.ask call).cache) cache

@[simp] theorem after_nil (cache : PatternCache) : cache.after [] = cache := rfl

@[simp] theorem after_cons (cache : PatternCache) (call : Call) (calls : List Call) :
    cache.after (call :: calls) = (cache.ask call).cache.after calls := rfl

def requests (cache : PatternCache) : List PatternRequest := cache.entries.map (·.request)

/-- What compiling a request afresh comes to. -/
def compiled (rules : RegexRules) (request : PatternRequest) : Except String Pattern :=
  Pattern.compile rules request.kind request.text

/-- The entries that are left once there is room for another one. -/
def leave (cache : PatternCache) (keep : Retention) : List CacheEntry :=
  if capacity ≤ cache.size then keep cache.entries else cache.entries

variable {rules : RegexRules} {cache : PatternCache} {keep : Retention} {request : PatternRequest}

theorem mem_requests_iff : request ∈ cache.requests ↔ (cache.find? request).isSome := by
  rw [requests, find?, List.find?_isSome, List.mem_map]
  simp only [decide_eq_true_eq]

/-- A call finds the entry of its request, or it compiles the request and makes room for its entry. -/
theorem get_cases (keep : Retention) (cache : PatternCache) (request : PatternRequest) :
    (∃ entry ∈ cache.entries, entry.request = request ∧ cache.get keep request = ⟨entry.result, false, cache⟩) ∨
      request ∉ cache.requests ∧ cache.get keep request = ⟨compiled cache.rules request, true,
        { cache with entries := ⟨request, compiled cache.rules request⟩ :: cache.leave keep }⟩ := by
  rw [mem_requests_iff, get]
  cases found : cache.find? request with
  | some entry =>
    have same : entry.request = request := by simpa using List.find?_some found
    exact .inl ⟨entry, List.mem_of_find?_eq_some found, same, rfl⟩
  | none => exact .inr ⟨by simp, rfl⟩

theorem get_fresh_iff : (cache.get keep request).fresh = true ↔ request ∉ cache.requests := by
  rcases get_cases keep cache request with ⟨entry, member, rfl, eq⟩ | ⟨new, eq⟩
  · have old : entry.request ∈ cache.requests := List.mem_map_of_mem member
    simp [eq, old]
  · simp [eq, new]

theorem mem_requests_get : request ∈ (cache.get keep request).cache.requests := by
  rcases get_cases keep cache request with ⟨entry, member, rfl, eq⟩ | ⟨_, eq⟩
  · rw [eq]
    exact List.mem_map_of_mem member
  · rw [eq]
    exact List.mem_cons_self

/-- Every entry is what its request compiles to, no request has two, and there are not too many. -/
structure Sound (rules : RegexRules) (cache : PatternCache) : Prop where
  rules_eq : cache.rules = rules
  result_eq : ∀ entry ∈ cache.entries, entry.result = compiled rules entry.request
  nodup : cache.requests.Nodup
  size_le : cache.size ≤ capacity

theorem sound_empty (rules : RegexRules) : Sound rules (.empty rules) where
  rules_eq := rfl
  result_eq := by simp [empty]
  nodup := List.nodup_nil
  size_le := Nat.zero_le _

theorem Sound.get_result (sound : Sound rules cache) : (cache.get keep request).result = compiled rules request := by
  rcases get_cases keep cache request with ⟨entry, member, rfl, eq⟩ | ⟨_, eq⟩
  · rw [eq, sound.result_eq entry member]
  · rw [eq, sound.rules_eq]

/-- There is room for one more entry, and what is left was there before. -/
theorem exists_perm_leave (lawful : keep.Lawful) (size : cache.size ≤ capacity) :
    (cache.leave keep).length < capacity ∧ ∃ gone, (gone ++ cache.leave keep).Perm cache.entries := by
  rw [leave]
  split
  case isTrue full =>
    obtain ⟨gone, count, perm⟩ := lawful cache.entries full
    refine ⟨?_, gone, perm⟩
    have lengths := perm.length_eq
    rw [List.length_append, count] at lengths
    have : 0 < evicted := by decide
    rw [PatternCache.size] at size
    omega
  case isFalse room => exact ⟨by rw [PatternCache.size] at room; omega, [], .refl _⟩

theorem Sound.get (sound : Sound rules cache) (lawful : keep.Lawful) (request : PatternRequest) :
    Sound rules (cache.get keep request).cache := by
  rcases get_cases keep cache request with ⟨entry, _, _, eq⟩ | ⟨new, eq⟩
  · rwa [eq]
  · obtain ⟨room, gone, perm⟩ := exists_perm_leave lawful sound.size_le
    have stayed : ∀ entry ∈ cache.leave keep, entry ∈ cache.entries := fun entry member =>
      perm.subset (List.mem_append_right gone member)
    have distinct : ((cache.leave keep).map (·.request)).Nodup := by
      have all : ((gone ++ cache.leave keep).map (·.request)).Nodup := (perm.map _).nodup_iff.mpr sound.nodup
      rw [List.map_append] at all
      exact (List.nodup_append.mp all).2.1
    rw [eq]
    refine ⟨sound.rules_eq, ?_, ?_, room⟩
    · intro entry member
      rcases List.mem_cons.mp member with rfl | old
      · rw [sound.rules_eq]
      · exact sound.result_eq entry (stayed entry old)
    · refine List.nodup_cons.mpr ⟨fun old => new ?_, distinct⟩
      obtain ⟨entry, member, same⟩ := List.mem_map.mp old
      exact List.mem_map.mpr ⟨entry, stayed entry member, same⟩

theorem Sound.after {calls : List Call} (sound : Sound rules cache) (lawful : ∀ call ∈ calls, call.keep.Lawful) :
    Sound rules (cache.after calls) := by
  induction calls generalizing cache with
  | nil => exact sound
  | cons call calls ih =>
    have first := sound.get (lawful call List.mem_cons_self) call.request
    exact ih first fun later member => lawful later (List.mem_cons_of_mem call member)

/-! Requests that fit into a cache all together are never evicted. -/

section Pool

variable {pool : List PatternRequest}

theorem Sound.size_lt (sound : Sound rules cache) (fits : pool.length ≤ capacity) (asked : cache.requests ⊆ pool)
    (new : request ∉ cache.requests) (member : request ∈ pool) : cache.size < capacity := by
  have distinct : (request :: cache.requests).Nodup := List.nodup_cons.mpr ⟨new, sound.nodup⟩
  have subset : request :: cache.requests ⊆ pool := List.cons_subset.mpr ⟨member, asked⟩
  have count := (List.subperm_of_subset distinct subset).length_le
  rw [List.length_cons, requests, List.length_map] at count
  exact Nat.lt_of_succ_le (Nat.le_trans count fits)

/-- Then a call adds its request and loses none. -/
theorem Sound.mem_requests_get_iff (sound : Sound rules cache) (fits : pool.length ≤ capacity)
    (asked : cache.requests ⊆ pool) (member : request ∈ pool) {r : PatternRequest} :
    r ∈ (cache.get keep request).cache.requests ↔ r = request ∨ r ∈ cache.requests := by
  rcases get_cases keep cache request with ⟨entry, old, rfl, eq⟩ | ⟨new, eq⟩
  · rw [eq]
    refine ⟨.inr, ?_⟩
    rintro (rfl | held)
    · exact List.mem_map_of_mem old
    · exact held
  · have room : ¬ capacity ≤ cache.size := Nat.not_le_of_lt (sound.size_lt fits asked new member)
    rw [eq, leave, if_neg room]
    exact List.mem_cons

theorem Sound.requests_get_subset (sound : Sound rules cache) (fits : pool.length ≤ capacity)
    (asked : cache.requests ⊆ pool) (member : request ∈ pool) : (cache.get keep request).cache.requests ⊆ pool := by
  intro r hr
  rcases (sound.mem_requests_get_iff fits asked member).mp hr with rfl | held
  · exact member
  · exact asked held

theorem Sound.mem_requests_after_iff {calls : List Call} (sound : Sound rules cache)
    (lawful : ∀ call ∈ calls, call.keep.Lawful) (fits : pool.length ≤ capacity) (held : cache.requests ⊆ pool)
    (asked : ∀ call ∈ calls, call.request ∈ pool) {r : PatternRequest} :
    r ∈ (cache.after calls).requests ↔ r ∈ cache.requests ∨ r ∈ calls.map (·.request) := by
  induction calls generalizing cache with
  | nil => simp
  | cons call calls ih =>
    have member := asked call List.mem_cons_self
    have first := sound.get (lawful call List.mem_cons_self) call.request
    have later := ih first (fun c hc => lawful c (List.mem_cons_of_mem call hc))
      (sound.requests_get_subset fits held member) fun c hc => asked c (List.mem_cons_of_mem call hc)
    rw [after_cons, ask, later, sound.mem_requests_get_iff fits held member, List.map_cons, List.mem_cons]
    tauto

end Pool

section Reports

variable {logger : Logger}

/-- The report of a request that does not compile. -/
def faultLines (logger : Logger) (rules : RegexRules) (request : PatternRequest) : List LogLine :=
  match compiled rules request with
  | .error reason => logger.report .invalidRegex [("pattern", request.text), ("reason", reason)]
  | .ok _ => []

/-- What is reported when patterns are fetched one after another. -/
def reportCalls (logger : Logger) (cache : PatternCache) : List Call → Reported
  | [] => ⟨[], cache⟩
  | call :: calls =>
    let first := (fetchPattern logger call.keep cache call.request).2
    let rest := reportCalls logger first.cache calls
    ⟨first.lines ++ rest.lines, rest.cache⟩

theorem fetchPattern_cache :
    (fetchPattern logger keep cache request).2.cache = (cache.get keep request).cache := by
  rw [fetchPattern]
  split <;> rfl

theorem fetchPattern_result : (fetchPattern logger keep cache request).1 = (cache.get keep request).result := by
  simp only [fetchPattern]
  split
  case h_1 reason _ failed => exact failed.symm
  case h_2 => rfl

/-- A fault is reported with the call that compiles the request. -/
theorem Sound.fetchPattern_lines (sound : Sound rules cache) : (fetchPattern logger keep cache request).2.lines =
    if request ∈ cache.requests then [] else faultLines logger rules request := by
  have result : (cache.get keep request).result = compiled rules request := sound.get_result
  have fresh : (cache.get keep request).fresh = true ↔ request ∉ cache.requests := get_fresh_iff
  rw [fetchPattern, faultLines, ← result]
  by_cases held : request ∈ cache.requests
  · have old : (cache.get keep request).fresh = false := by simpa [held] using fresh
    rw [if_pos held, old]
  · rw [if_neg held, fresh.mpr held]
    cases (cache.get keep request).result <;> rfl

/-- The calls for patterns, the first of which is asked for at a certain time. -/
def callsFrom (choices : Choices) : Nat → List PatternRequest → List Call
  | _, [] => []
  | n, request :: requests => ⟨request, choices n⟩ :: callsFrom choices (n + 1) requests

theorem callsFrom_append (choices : Choices) (n : Nat) (requests later : List PatternRequest) :
    callsFrom choices n (requests ++ later) =
      callsFrom choices n requests ++ callsFrom choices (n + requests.length) later := by
  induction requests generalizing n with
  | nil => rfl
  | cons request requests ih =>
    rw [List.cons_append, callsFrom, ih, callsFrom, List.cons_append, List.length_cons, Nat.add_assoc, Nat.add_comm 1]

theorem map_request_callsFrom (choices : Choices) (n : Nat) (requests : List PatternRequest) :
    (callsFrom choices n requests).map (·.request) = requests := by
  induction requests generalizing n with
  | nil => rfl
  | cons request requests ih => rw [callsFrom, List.map_cons, ih]

theorem lawful_callsFrom {choices : Choices} (lawful : ∀ n, (choices n).Lawful) (n : Nat)
    (requests : List PatternRequest) : ∀ call ∈ callsFrom choices n requests, call.keep.Lawful := by
  induction requests generalizing n with
  | nil =>
    intro call member
    contradiction
  | cons request requests ih =>
    intro call member
    rcases List.mem_cons.mp member with rfl | later
    · exact lawful n
    · exact ih (n + 1) call later

theorem after_append (calls later : List Call) : cache.after (calls ++ later) = (cache.after calls).after later :=
  List.foldl_append

theorem reportCalls_cons (call : Call) (calls : List Call) : (reportCalls logger cache (call :: calls)).lines =
    (fetchPattern logger call.keep cache call.request).2.lines ++
      (reportCalls logger (cache.ask call).cache calls).lines := by
  rw [reportCalls, fetchPattern_cache]
  rfl

theorem reportCalls_append (calls later : List Call) : (reportCalls logger cache (calls ++ later)).lines =
    (reportCalls logger cache calls).lines ++ (reportCalls logger (cache.after calls) later).lines := by
  induction calls generalizing cache with
  | nil => rfl
  | cons call calls ih => rw [List.cons_append, reportCalls_cons, reportCalls_cons, ih, List.append_assoc, after_cons]

/-- All that is reported of patterns are warnings that they do not compile. -/
theorem mem_reportCalls {calls : List Call} {line : LogLine} (member : line ∈ (reportCalls logger cache calls).lines) :
    line.severity = .warn ∧ line.event = Event.invalidRegex.name := by
  induction calls generalizing cache with
  | nil => contradiction
  | cons call calls ih =>
    rw [reportCalls_cons, List.mem_append] at member
    rcases member with first | others
    · rw [fetchPattern] at first
      split at first
      · rw [Logger.report, Logger.log] at first
        split at first
        · rw [List.mem_singleton.mp first]
          exact ⟨rfl, rfl⟩
        · contradiction
      · contradiction
    · exact ih others

/-- Of requests that fit into the cache, each one that it does not hold yet is reported once. -/
theorem Sound.reportCalls_lines {calls : List Call} {pool : List PatternRequest} (sound : Sound rules cache)
    (lawful : ∀ call ∈ calls, call.keep.Lawful) (fits : pool.length ≤ capacity) (held : cache.requests ⊆ pool)
    (asked : ∀ call ∈ calls, call.request ∈ pool) : (reportCalls logger cache calls).lines =
      ((calls.map (·.request)).filter (· ∉ cache.requests)).eraseDups.flatMap (faultLines logger rules) := by
  induction calls generalizing cache with
  | nil => rfl
  | cons call calls ih =>
    have member := asked call List.mem_cons_self
    have grown (r) : r ∈ (cache.get call.keep call.request).cache.requests ↔ r = call.request ∨ r ∈ cache.requests :=
      sound.mem_requests_get_iff fits held member
    have later := ih (sound.get (lawful call List.mem_cons_self) call.request)
      (fun c hc => lawful c (List.mem_cons_of_mem call hc)) (sound.requests_get_subset fits held member)
      fun c hc => asked c (List.mem_cons_of_mem call hc)
    rw [reportCalls_cons, sound.fetchPattern_lines, ask, later, List.map_cons]
    by_cases old : call.request ∈ cache.requests
    · have same (r) : r ∈ (cache.get call.keep call.request).cache.requests ↔ r ∈ cache.requests := by
        rw [grown r]
        exact or_iff_right_of_imp fun eq => eq ▸ old
      simp only [same, if_pos old, List.nil_append]
      rw [List.filter_cons_of_neg (by simpa using old)]
    · have others : (calls.map (·.request)).filter (· ∉ (cache.get call.keep call.request).cache.requests) =
          ((calls.map (·.request)).filter (· ∉ cache.requests)).filter fun r => !r == call.request := by
        rw [List.filter_filter]
        refine List.filter_congr fun r _ => Bool.eq_iff_iff.mpr ?_
        simp [grown r]
      rw [if_neg old, List.filter_cons_of_pos (by simpa using old), List.eraseDups_cons, List.flatMap_cons, others]

end Reports

/-- After every call the cache is within bounds and holds the request, the answer is that of compiling, and
it is fresh if the cache did not hold the request. Where all requests fit into the cache, the fresh ones are
the first of their kind, and each request that does not compile is reported once. -/
theorem answers_of_lawful_calls (rules : RegexRules) (calls : List Call) (lawful : ∀ call ∈ calls, call.keep.Lawful) :
    let distinct := (calls.map (·.request)).eraseDups
    (∀ earlier call later, calls = earlier ++ call :: later →
      let cache := (empty rules).after earlier
      let answer := cache.ask call
      answer.cache.size ≤ capacity ∧
        answer.result = Pattern.compile rules call.request.kind call.request.text ∧
        call.request ∈ answer.cache.requests ∧
        (answer.fresh = true ↔ call.request ∉ cache.requests) ∧
        (distinct.length ≤ capacity → (answer.fresh = true ↔ call.request ∉ earlier.map (·.request)))) ∧
      (distinct.length ≤ capacity → ∀ logger,
        (reportCalls logger (.empty rules) calls).lines = distinct.flatMap (faultLines logger rules)) := by
  intro distinct
  have none : (empty rules).requests = [] := rfl
  have asked : ∀ call ∈ calls, call.request ∈ distinct := fun call member =>
    List.mem_eraseDups.mpr (List.mem_map_of_mem member)
  refine ⟨?_, fun fits logger => ?_⟩
  · rintro earlier call later rfl cache answer
    have before : ∀ c ∈ earlier, c.keep.Lawful := fun c hc => lawful c (List.mem_append_left _ hc)
    have sound : Sound rules cache := (sound_empty rules).after before
    have next := sound.get (lawful call (by simp)) call.request
    refine ⟨next.size_le, sound.get_result, mem_requests_get, get_fresh_iff, fun fits => ?_⟩
    have held := (sound_empty rules).mem_requests_after_iff (r := call.request) before fits
      (by simp [none]) fun c hc => asked c (List.mem_append_left _ hc)
    rw [none, List.mem_nil_iff, false_or] at held
    exact get_fresh_iff.trans (not_congr held)
  · have lines : (reportCalls logger (empty rules) calls).lines = _ :=
      (sound_empty rules).reportCalls_lines lawful fits (by simp [none]) asked
    simpa [none] using lines

/-- A pattern that does not compile, asked for twice. -/
theorem answers_of_repeated_fault :
    let rules := Regex.rules 10000
    let bad : Call := ⟨⟨.search, "(unclosed"⟩, keepNewest⟩
    let good : Call := ⟨⟨.like, "a%"⟩, keepNewest⟩
    let cache := (empty rules).after [bad, good]
    (∀ call ∈ [bad, good, bad], call.keep.Lawful) ∧
      (cache.ask bad).fresh = false ∧ (cache.ask bad).cache.size ≤ capacity ∧
      ∃ reason, (reportCalls {} (.empty rules) [bad, good, bad]).lines =
        [⟨.warn, "INVALID_REGEX", [("pattern", "(unclosed"), ("reason", reason)]⟩] := by
  intro rules bad good cache
  have lawful : ∀ call ∈ [bad, good, bad], call.keep.Lawful := by
    simp [bad, good, keepNewest_lawful]
  obtain ⟨reason, refused⟩ : ∃ reason, Pattern.compile (Regex.rules 10000) .search "(unclosed" = .error reason :=
    ⟨_, rfl⟩
  obtain ⟨pattern, accepted⟩ : ∃ pattern, Pattern.compile (Regex.rules 10000) .like "a%" = .ok pattern := ⟨_, rfl⟩
  obtain ⟨answers, lines⟩ := answers_of_lawful_calls rules [bad, good, bad] lawful
  obtain ⟨size, _, _, _, fresh⟩ := answers [bad, good] bad [] rfl
  have distinct : ([bad, good, bad].map (·.request)).eraseDups = [bad.request, good.request] := by decide
  rw [distinct] at lines fresh
  refine ⟨lawful, ?_, size, reason, (lines (by decide) {}).trans ?_⟩
  · exact Bool.eq_false_iff.mpr fun first => (fresh (by decide)).mp first (by simp)
  · simp only [List.flatMap_cons, List.flatMap_nil, faultLines, compiled, bad, good, rules, refused, accepted]
    rfl

section Alike

variable {matters : PatternRequest → Prop} {choices choices' : Choices} {n : Nat} {cache' : PatternCache}
  {requests : List PatternRequest}

/-- Of two caches that are asked for the same patterns, whatever stays in each when it is full, both hold a request or
neither does whenever it is asked for and matters. -/
def HeldAlike (matters : PatternRequest → Prop) (choices choices' : Choices) (n : Nat) (cache cache' : PatternCache)
    (requests : List PatternRequest) : Prop :=
  ∀ earlier request later, requests = earlier ++ request :: later → matters request →
    (request ∈ (cache.after (callsFrom choices n earlier)).requests ↔
      request ∈ (cache'.after (callsFrom choices' n earlier)).requests)

theorem heldAlike_self : HeldAlike matters choices choices n cache cache requests := fun _ _ _ _ _ => .rfl

theorem heldAlike_of_none (none : ∀ request ∈ requests, ¬ matters request) :
    HeldAlike matters choices choices' n cache cache' requests := by
  rintro earlier request later rfl held
  exact absurd held (none request (by simp))

/-- Requests that fit into a cache all together are held as soon as they were asked for. -/
theorem heldAlike_of_fits (lawful : ∀ n, (choices n).Lawful) (lawful' : ∀ n, (choices' n).Lawful)
    (fits : requests.eraseDups.length ≤ capacity) :
    HeldAlike matters choices choices' n (empty rules) (empty rules) requests := by
  rintro earlier request later rfl _
  have held {choices : Choices} (lawful : ∀ n, (choices n).Lawful) :
      request ∈ ((empty rules).after (callsFrom choices n earlier)).requests ↔ request ∈ earlier := by
    have asked : ∀ call ∈ callsFrom choices n earlier, call.request ∈ (earlier ++ request :: later).eraseDups := by
      intro call member
      have listed := List.mem_map_of_mem (f := Call.request) member
      rw [map_request_callsFrom] at listed
      exact List.mem_eraseDups.mpr (List.mem_append_left _ listed)
    rw [(sound_empty rules).mem_requests_after_iff (lawful_callsFrom lawful n earlier) fits (List.nil_subset _) asked,
      map_request_callsFrom]
    exact or_iff_right List.not_mem_nil
  rw [held lawful, held lawful']

theorem HeldAlike.head (alike : HeldAlike matters choices choices' n cache cache' (request :: requests))
    (held : matters request) : request ∈ cache.requests ↔ request ∈ cache'.requests :=
  alike [] request requests rfl held

theorem HeldAlike.tail (alike : HeldAlike matters choices choices' n cache cache' (request :: requests)) :
    HeldAlike matters choices choices' (n + 1) (cache.ask ⟨request, choices n⟩).cache
      (cache'.ask ⟨request, choices' n⟩).cache requests := by
  rintro earlier r later rfl
  exact alike (request :: earlier) r later rfl

end Alike

/-! What stays decides whether a fault is reported again. -/

section Again

variable {logger : Logger}

/-- The choice that drops the newest entries. -/
def keepOldest : Retention := fun entries => entries.drop evicted

theorem keepOldest_lawful : Retention.Lawful keepOldest := by
  intro entries full
  have evicts : evicted ≤ entries.length := Nat.le_trans (by decide) full
  exact ⟨entries.take evicted, List.length_take_of_le evicts, by rw [keepOldest, List.take_append_drop]⟩

theorem requests_get_of_new (keep : Retention) (new : request ∉ cache.requests) :
    (cache.get keep request).cache.requests = request :: (cache.leave keep).map (·.request) := by
  rcases get_cases keep cache request with ⟨entry, member, rfl, _⟩ | ⟨_, eq⟩
  · exact absurd (List.mem_map_of_mem member) new
  · rw [eq]
    rfl

theorem Sound.requests_get_subset_cons (sound : Sound rules cache) (lawful : keep.Lawful) :
    (cache.get keep request).cache.requests ⊆ request :: cache.requests := by
  rcases get_cases keep cache request with ⟨entry, _, _, eq⟩ | ⟨new, _⟩
  · rw [eq]
    exact List.subset_cons_self ..
  · obtain ⟨_, gone, perm⟩ := exists_perm_leave lawful sound.size_le
    have stayed : (cache.leave keep).map (·.request) ⊆ cache.requests :=
      List.map_subset _ fun entry member => perm.subset (List.mem_append_right gone member)
    rw [requests_get_of_new keep new]
    exact List.cons_subset_cons _ stayed

/-- Requests that differ are all fresh at first, whatever is evicted. -/
theorem Sound.reportCalls_lines_of_new {calls : List Call} (sound : Sound rules cache)
    (lawful : ∀ call ∈ calls, call.keep.Lawful) (new : ∀ call ∈ calls, call.request ∉ cache.requests)
    (distinct : (calls.map (·.request)).Nodup) :
    (reportCalls logger cache calls).lines = (calls.map (·.request)).flatMap (faultLines logger rules) := by
  induction calls generalizing cache with
  | nil => rfl
  | cons call calls ih =>
    rw [List.map_cons, List.nodup_cons] at distinct
    obtain ⟨first, others⟩ := distinct
    have keeps := lawful call List.mem_cons_self
    have next : Sound rules (cache.ask call).cache := sound.get keeps call.request
    have later : ∀ c ∈ calls, c.request ∉ (cache.ask call).cache.requests := by
      intro c member held
      rcases List.mem_cons.mp (sound.requests_get_subset_cons keeps held) with same | old
      · exact first (same ▸ List.mem_map_of_mem member)
      · exact new c (List.mem_cons_of_mem call member) old
    rw [reportCalls_cons, sound.fetchPattern_lines, if_neg (new call List.mem_cons_self),
      ih next (fun c hc => lawful c (List.mem_cons_of_mem call hc)) later others]
    rfl

/-- As long as there is room, the newest request comes first and none goes. -/
theorem requests_after_of_room {calls : List Call} (new : ∀ call ∈ calls, call.request ∉ cache.requests)
    (distinct : (calls.map (·.request)).Nodup) (room : cache.requests.length + calls.length ≤ capacity) :
    (cache.after calls).requests = (calls.map (·.request)).reverse ++ cache.requests := by
  induction calls generalizing cache with
  | nil => rfl
  | cons call calls ih =>
    rw [List.map_cons, List.nodup_cons] at distinct
    obtain ⟨first, others⟩ := distinct
    rw [List.length_cons] at room
    have left : cache.leave call.keep = cache.entries := by
      rw [requests, List.length_map] at room
      exact if_neg (by rw [size]; omega)
    have held : (cache.ask call).cache.requests = call.request :: cache.requests := by
      rw [ask, requests_get_of_new call.keep (new call List.mem_cons_self), left]
      rfl
    have later : ∀ c ∈ calls, c.request ∉ (cache.ask call).cache.requests := by
      intro c member
      rw [held, List.mem_cons, not_or]
      exact ⟨fun same => first (same ▸ List.mem_map_of_mem member), new c (List.mem_cons_of_mem call member)⟩
    rw [after_cons, ih later others (by rw [held, List.length_cons]; omega), held, List.map_cons, List.reverse_cons,
      List.append_assoc]
    rfl

variable {entries : List CacheEntry} {others : List PatternRequest} {last : PatternRequest}

theorem requests_after_filling (rules : RegexRules) (keep : Retention) (distinct : (request :: others).Nodup)
    (full : others.length + 1 = capacity) :
    ((empty rules).after (callsFrom keep 0 (request :: others))).requests = others.reverse ++ [request] := by
  have count : (callsFrom keep 0 (request :: others)).length = capacity := by
    rw [← List.length_map (f := Call.request), map_request_callsFrom, List.length_cons, full]
  rw [requests_after_of_room (fun _ _ => List.not_mem_nil), map_request_callsFrom, List.reverse_cons]
  · exact List.append_nil _
  · rwa [map_request_callsFrom]
  · rw [count]
    exact Nat.le_of_eq (Nat.zero_add _)

/-- One more request than there is room for leaves what is kept of the others. -/
theorem requests_after_evicting (rules : RegexRules) (keep : Retention) (distinct : (request :: others ++ [last]).Nodup)
    (full : others.length + 1 = capacity) :
    ∃ entries : List CacheEntry, entries.map (·.request) = others.reverse ++ [request] ∧
      ((empty rules).after (callsFrom keep 0 (request :: others ++ [last]))).requests =
        last :: (keep entries).map (·.request) := by
  obtain ⟨first, _, apart⟩ := List.nodup_append.mp distinct
  let filled := (empty rules).after (callsFrom keep 0 (request :: others))
  have held : filled.requests = others.reverse ++ [request] := requests_after_filling rules keep first full
  have size : capacity ≤ filled.size := by
    have length := congrArg List.length held
    rw [requests, List.length_map, List.length_append, List.length_reverse] at length
    exact Nat.le_of_eq (full.symm.trans length.symm)
  have new : last ∉ filled.requests := by
    intro member
    rw [held, List.mem_append, List.mem_reverse, List.mem_singleton] at member
    exact apart last (List.mem_cons.mpr member.symm) last List.mem_cons_self rfl
  have leaves : filled.leave keep = keep filled.entries := if_pos size
  refine ⟨filled.entries, held, ?_⟩
  rw [← leaves, ← requests_get_of_new keep new, callsFrom_append, after_append]
  rfl

/-- A request, enough others to fill the cache and one more: if it is asked for again, its fault is reported again
unless it was among the entries that stayed. -/
theorem reportCalls_again (logger : Logger) (rules : RegexRules) (lawful : keep.Lawful)
    (distinct : (request :: others ++ [last]).Nodup) (full : others.length + 1 = capacity) :
    ∃ entries : List CacheEntry, entries.map (·.request) = others.reverse ++ [request] ∧
      (reportCalls logger (empty rules) (callsFrom keep 0 (request :: others ++ [last] ++ [request]))).lines =
        (request :: others ++ [last]).flatMap (faultLines logger rules) ++
          if request ∈ (keep entries).map (·.request) then [] else faultLines logger rules request := by
  obtain ⟨entries, stored, left⟩ := requests_after_evicting rules keep distinct full
  let before := callsFrom keep 0 (request :: others ++ [last])
  have lawful' : ∀ call ∈ before, call.keep.Lawful := lawful_callsFrom (fun _ => lawful) 0 _
  have different : request ≠ last :=
    (List.nodup_append.mp distinct).2.2 request List.mem_cons_self last List.mem_cons_self
  have held : request ∈ ((empty rules).after before).requests ↔ request ∈ (keep entries).map (·.request) := by
    rw [left, List.mem_cons]
    exact or_iff_right different
  refine ⟨entries, stored, ?_⟩
  rw [callsFrom_append, reportCalls_append, (sound_empty rules).reportCalls_lines_of_new lawful'
    (fun _ _ => List.not_mem_nil) (by rwa [map_request_callsFrom]), map_request_callsFrom]
  congr 1
  rw [callsFrom, callsFrom, reportCalls_cons, ((sound_empty rules).after lawful').fetchPattern_lines]
  simp only [held]
  exact List.append_nil _

/-- The choices differ at the request that was asked for first. -/
theorem not_mem_keepNewest (held : entries.map (·.request) = others.reverse ++ [request])
    (full : others.length + 1 = capacity) (first : request ∉ others) :
    request ∉ (keepNewest entries).map (·.request) := by
  have count : entries.length = capacity := by
    rw [← List.length_map (f := CacheEntry.request), held, List.length_append, List.length_reverse]
    exact full
  rw [keepNewest, List.map_take, held, count, List.take_append_of_le_length (by
    rw [List.length_reverse]
    have : 0 < evicted := by decide
    omega)]
  exact fun member => first (List.mem_reverse.mp (List.mem_of_mem_take member))

theorem mem_keepOldest (held : entries.map (·.request) = others.reverse ++ [request])
    (full : others.length + 1 = capacity) : request ∈ (keepOldest entries).map (·.request) := by
  have few : evicted ≤ others.reverse.length := by
    rw [List.length_reverse]
    have : evicted < capacity := by decide
    omega
  rw [keepOldest, List.map_drop, held, List.drop_append_of_le_length few]
  exact List.mem_append_right _ List.mem_cons_self

end Again

end PatternCache
end DocQuery
