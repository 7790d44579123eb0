import Mathlib.Logic.Function.Basic
import Mathlib.Order.Bounds.Defs
import Mathlib.Data.List.Basic
import Mathlib.Data.List.Induction
import Std.Data.String.ToNat

set_option autoImplicit false

namespace DataPilot.Auth

-- A counter of the store and the second in which it expires, once that is set.
structure Counter where
  count : Nat
  expires : Option Nat := none
deriving DecidableEq

abbrev RateLimitStore := String → Option Counter

def Counter.alive (counter : Counter) (now : Nat) : Bool := counter.expires.all fun expires => now < expires

-- What the store holds under a key: an expired counter is gone.
def RateLimitStore.live (store : RateLimitStore) (now : Nat) (key : String) : Option Counter :=
  match store key with
  | none => none
  | some counter => if counter.alive now then some counter else none

def RateLimitStore.put (store : RateLimitStore) (key : String) (counter : Counter) : RateLimitStore :=
  Function.update store key (some counter)

def RateLimitStore.incr (store : RateLimitStore) (now : Nat) (key : String) : Nat × RateLimitStore :=
  match store.live now key with
  | none => (1, store.put key { count := 1 })
  | some counter => (counter.count + 1, store.put key { counter with count := counter.count + 1 })

def RateLimitStore.expire (store : RateLimitStore) (now : Nat) (key : String) (seconds : Nat) : RateLimitStore :=
  match store.live now key with
  | none => store
  | some counter => store.put key { counter with expires := some (now + seconds) }

def RateLimitStore.ttl (store : RateLimitStore) (now : Nat) (key : String) : Int :=
  match store.live now key with
  | none => -2
  | some ⟨_, none⟩ => -1
  | some ⟨_, some expires⟩ => (expires : Int) - now

structure RateLimitResult where
  allowed : Bool
  limit : Int
  remaining : Int
  resetAfter : Nat
deriving DecidableEq

-- The limit and the window that a key is checked with. The settings only admit windows
-- of at least a second; by zero there is no bucket.
structure Rate where
  limit : Int
  windowSeconds : Nat
  positive : 0 < windowSeconds

def Rate.bucket (rate : Rate) (now : Nat) : Nat := now / rate.windowSeconds

def redisKey (key : String) (bucket : Nat) : String := s!"datapilot:rate:{key}:{bucket}"

-- RateLimiter.check at a time in whole seconds.
def check (rate : Rate) (key : String) (now : Nat) (store : RateLimitStore) : RateLimitResult × RateLimitStore :=
  let redisKey := redisKey key (rate.bucket now)
  let counted := store.incr now redisKey
  let count := counted.1
  let store := if count = 1 then counted.2.expire now redisKey rate.windowSeconds else counted.2
  let ttl := store.ttl now redisKey
  let resetAfter := max 1 (if 0 < ttl then ttl.toNat else rate.windowSeconds)
  ({
    allowed := decide (count ≤ rate.limit)
    limit := rate.limit
    remaining := max 0 (rate.limit - count)
    resetAfter := resetAfter }, store)

structure RateCall where
  key : String
  time : Nat
deriving DecidableEq

section Calls

-- Each key is checked with its own rate.
variable (rates : String → Rate)

def RateCall.check (call : RateCall) (store : RateLimitStore) : RateLimitResult × RateLimitStore :=
  Auth.check (rates call.key) call.key call.time store

def storeAfter : List RateCall → RateLimitStore → RateLimitStore
  | [], store => store
  | call :: calls, store => storeAfter calls (call.check rates store).2

def results : List RateCall → RateLimitStore → List (RateCall × RateLimitResult)
  | [], _ => []
  | call :: calls, store => (call, (call.check rates store).1) :: results calls (call.check rates store).2

def RateCall.inBucket (key : String) (bucket : Nat) (call : RateCall) : Bool :=
  call.key = key ∧ (rates key).bucket call.time = bucket

def admissions (key : String) (bucket : Nat) (calls : List RateCall) : List Bool :=
  ((results rates calls fun _ => none).filter fun result => result.1.inBucket rates key bucket).map fun result => result.2.allowed

def result (past : List RateCall) (call : RateCall) : RateLimitResult :=
  (call.check rates (storeAfter rates past fun _ => none)).1

def InOrder (calls : List RateCall) : Prop := calls.Pairwise fun first second => first.time ≤ second.time

def CanPass (past : List RateCall) (key : String) (time : Nat) : Prop :=
  ∃ between, InOrder (past ++ between ++ [⟨key, time⟩]) ∧ (result rates (past ++ between) ⟨key, time⟩).allowed = true

-- Of the calls with the key the first of each bucket are allowed, up to the limit, and a
-- rejected one is told when a call with the key can next be allowed.
structure WindowKept (key : String) (calls : List RateCall) : Prop where
  admitted : ∀ bucket, admissions rates key bucket calls =
    List.replicate (min (rates key).limit.toNat (calls.countP fun call => call.inBucket rates key bucket)) true ++
      List.replicate ((calls.countP fun call => call.inBucket rates key bucket) - (rates key).limit.toNat) false
  reset : ∀ past call later, calls = past ++ call :: later → call.key = key → (result rates past call).allowed = false →
    IsLeast { time | CanPass rates (past ++ [call]) key time } (call.time + (result rates past call).resetAfter)

-- In a bucket of which a call is rejected the first call comes just when the bucket begins.
def Aligned (key : String) (calls : List RateCall) : Prop :=
  ∀ bucket, (rates key).limit.toNat < calls.countP (fun call => call.inBucket rates key bucket) →
    0 < (rates key).limit ∧ ∃ first, calls.find? (fun call => call.inBucket rates key bucket) = some first ∧
      first.time = bucket * (rates key).windowSeconds

end Calls

theorem last_part (mark : Char) (front back otherFront otherBack : List Char) (bare : mark ∉ back)
    (otherBare : mark ∉ otherBack) (same : front ++ mark :: back = otherFront ++ mark :: otherBack) :
    front = otherFront ∧ back = otherBack := by
  have tail : ∀ more rest last : List Char, mark ∉ last → mark :: last = more ++ mark :: rest → more = [] ∧ last = rest := by
    intro more rest last absent split
    cases more with
    | nil => exact ⟨rfl, (List.cons.inj split).2⟩
    | cons c more =>
        rw [List.cons_append] at split
        exact absurd ((List.cons.inj split).2 ▸ List.mem_append_right more List.mem_cons_self) absent
  rcases List.append_eq_append_iff.mp same with ⟨more, fronts, backs⟩ | ⟨more, fronts, backs⟩
  · obtain ⟨rfl, rfl⟩ := tail more otherBack back bare backs
    exact ⟨by rw [fronts, List.append_nil], rfl⟩
  · obtain ⟨rfl, rfl⟩ := tail more back otherBack otherBare backs
    exact ⟨by rw [fronts, List.append_nil], rfl⟩

theorem redis_key_injective (key other : String) (bucket otherBucket : Nat)
    (same : redisKey key bucket = redisKey other otherBucket) : key = other ∧ bucket = otherBucket := by
  have bare : ∀ number : Nat, ':' ∉ (Nat.repr number).toList := by
    intro number member
    rw [Nat.repr, String.toList_ofList] at member
    exact absurd (Nat.isDigit_of_mem_toDigits (by decide) (by decide) member) (by decide)
  have texts : ∀ (key : String) (bucket : Nat), (redisKey key bucket).toList =
      ("datapilot:rate:".toList ++ key.toList) ++ ':' :: (Nat.repr bucket).toList := by
    intro key bucket
    have parts : redisKey key bucket = "datapilot:rate:" ++ key ++ ":" ++ Nat.repr bucket := rfl
    rw [parts, String.toList_append, String.toList_append, String.toList_append, List.append_assoc _ ":".toList]
    rfl
  have lists := congrArg String.toList same
  rw [texts, texts] at lists
  obtain ⟨keys, buckets⟩ := last_part ':' _ _ _ _ (bare bucket) (bare otherBucket) lists
  exact ⟨String.toList_inj.mp (List.append_cancel_left keys), Nat.repr_injective (String.toList_inj.mp buckets)⟩

theorem bucket_outlived (rate : Rate) (first now : Nat) (same : rate.bucket first = rate.bucket now) :
    now < first + rate.windowSeconds := by
  have past : now < now / rate.windowSeconds * rate.windowSeconds + rate.windowSeconds := Nat.lt_div_mul_add rate.positive
  have begun := Nat.div_mul_le_self first rate.windowSeconds
  rw [Rate.bucket, Rate.bucket] at same
  rw [same] at begun
  omega

theorem put_same (store : RateLimitStore) (key : String) (counter : Counter) : store.put key counter key = some counter := by
  rw [RateLimitStore.put, Function.update_self]

theorem put_other (store : RateLimitStore) (key other : String) (counter : Counter) (different : other ≠ key) :
    store.put key counter other = store other := by
  rw [RateLimitStore.put, Function.update_of_ne different]

theorem put_twice (store : RateLimitStore) (key : String) (counter later : Counter) :
    (store.put key counter).put key later = store.put key later := by
  rw [RateLimitStore.put, RateLimitStore.put, RateLimitStore.put, Function.update_idem]

theorem live_none (store : RateLimitStore) (now : Nat) (key : String) (absent : store key = none) :
    store.live now key = none := by
  rw [RateLimitStore.live, absent]

theorem live_some (store : RateLimitStore) (now : Nat) (key : String) (counter : Counter) (present : store key = some counter)
    (alive : counter.alive now = true) : store.live now key = some counter := by
  simp only [RateLimitStore.live, present, if_pos alive]

theorem put_live (store : RateLimitStore) (now : Nat) (key : String) (counter : Counter) (alive : counter.alive now = true) :
    (store.put key counter).live now key = some counter :=
  live_some _ now key counter (put_same store key counter) alive

theorem check_first (rate : Rate) (key : String) (now : Nat) (store : RateLimitStore)
    (absent : store (redisKey key (rate.bucket now)) = none) :
    check rate key now store =
      (⟨decide (((1 : Nat) : Int) ≤ rate.limit), rate.limit, max 0 (rate.limit - (1 : Nat)), rate.windowSeconds⟩,
        store.put (redisKey key (rate.bucket now)) ⟨1, some (now + rate.windowSeconds)⟩) := by
  have positive := rate.positive
  generalize named : redisKey key (rate.bucket now) = name at absent
  have counted : store.incr now name = (1, store.put name { count := 1 }) := by
    simp only [RateLimitStore.incr, live_none store now name absent]
  have expiring : (store.put name { count := 1 }).expire now name rate.windowSeconds =
      store.put name ⟨1, some (now + rate.windowSeconds)⟩ := by
    simp only [RateLimitStore.expire, put_live store now name { count := 1 } rfl, put_twice]
  have alive : (⟨1, some (now + rate.windowSeconds)⟩ : Counter).alive now = true := by
    simp [Counter.alive, positive]
  have left : (store.put name ⟨1, some (now + rate.windowSeconds)⟩).ttl now name = rate.windowSeconds := by
    simp only [RateLimitStore.ttl, put_live store now name _ alive]
    omega
  have reset : max 1 (if (0 : Int) < rate.windowSeconds then (rate.windowSeconds : Int).toNat else rate.windowSeconds) =
      rate.windowSeconds := by
    rw [if_pos (by omega), Int.toNat_natCast]
    omega
  simp only [check, named, counted, if_true, expiring, left, reset]

theorem check_again (rate : Rate) (key : String) (now count expires : Nat) (store : RateLimitStore)
    (present : store (redisKey key (rate.bucket now)) = some ⟨count, some expires⟩) (counting : 0 < count)
    (alive : now < expires) :
    check rate key now store =
      (⟨decide (((count + 1 : Nat) : Int) ≤ rate.limit), rate.limit, max 0 (rate.limit - (count + 1 : Nat)), expires - now⟩,
        store.put (redisKey key (rate.bucket now)) ⟨count + 1, some expires⟩) := by
  generalize named : redisKey key (rate.bucket now) = name at present
  have lives : ∀ count, (⟨count, some expires⟩ : Counter).alive now = true := by simp [Counter.alive, alive]
  have counted : store.incr now name = (count + 1, store.put name ⟨count + 1, some expires⟩) := by
    simp only [RateLimitStore.incr, live_some store now name _ present (lives count)]
  have left : (store.put name ⟨count + 1, some expires⟩).ttl now name = (expires : Int) - now := by
    simp only [RateLimitStore.ttl, put_live store now name _ (lives (count + 1))]
  have later : count + 1 ≠ 1 := by omega
  have reset : max 1 (if (0 : Int) < (expires : Int) - now then ((expires : Int) - now).toNat else rate.windowSeconds) =
      expires - now := by
    rw [if_pos (by omega)]
    omega
  simp only [check, named, counted, if_neg later, left, reset]

section Counting

variable (rates : String → Rate)

def Counted (past : List RateCall) (store : RateLimitStore) : Prop :=
  ∀ key bucket, store (redisKey key bucket) =
    (past.find? fun call => call.inBucket rates key bucket).map fun first =>
      ⟨past.countP fun call => call.inBucket rates key bucket, some (first.time + (rates key).windowSeconds)⟩

theorem counted_empty : Counted rates [] fun _ => none := fun _ _ => rfl

theorem count_found (test : RateCall → Bool) (calls : List RateCall) : calls.find? test = none ↔ calls.countP test = 0 := by
  rw [List.find?_eq_none, List.countP_eq_zero]

def RateCall.sameBucket (call other : RateCall) : Bool := other.inBucket rates call.key ((rates call.key).bucket call.time)

theorem counted_put (past : List RateCall) (store : RateLimitStore) (call first : RateCall) (counted : Counted rates past store)
    (found : (past ++ [call]).find? (call.sameBucket rates) = some first) :
    Counted rates (past ++ [call]) (store.put (redisKey call.key ((rates call.key).bucket call.time))
      ⟨(past ++ [call]).countP (call.sameBucket rates), some (first.time + (rates call.key).windowSeconds)⟩) := by
  intro key bucket
  by_cases own : key = call.key ∧ bucket = (rates call.key).bucket call.time
  · obtain ⟨rfl, rfl⟩ := own
    have there : (past ++ [call]).find? (fun other => other.inBucket rates call.key ((rates call.key).bucket call.time)) =
        some first := found
    rw [put_same, there]
    rfl
  · have outside : call.inBucket rates key bucket = false := by
      rw [RateCall.inBucket, decide_eq_false_iff_not]
      rintro ⟨rfl, rfl⟩
      exact own ⟨rfl, rfl⟩
    have other : redisKey key bucket ≠ redisKey call.key ((rates call.key).bucket call.time) :=
      fun same => own (redis_key_injective _ _ _ _ same)
    rw [put_other _ _ _ _ other, counted key bucket, List.find?_append, List.countP_append, List.countP_singleton,
      List.find?_singleton, outside]
    simp

theorem check_counted (past : List RateCall) (store : RateLimitStore) (call : RateCall) (counted : Counted rates past store) :
    Counted rates (past ++ [call]) (call.check rates store).2 ∧
      (call.check rates store).1.allowed =
        decide (((past.countP (call.sameBucket rates) + 1 : Nat) : Int) ≤ (rates call.key).limit) ∧
      ∃ first, (past ++ [call]).find? (call.sameBucket rates) = some first ∧
        call.time + (call.check rates store).1.resetAfter = first.time + (rates call.key).windowSeconds := by
  have within : call.sameBucket rates call = true := by simp [RateCall.sameBucket, RateCall.inBucket]
  have here := counted call.key ((rates call.key).bucket call.time)
  have count : (past ++ [call]).countP (call.sameBucket rates) = past.countP (call.sameBucket rates) + 1 := by
    rw [List.countP_append, List.countP_singleton, if_pos within]
  cases search : past.find? (call.sameBucket rates) with
  | none =>
      have nothing : past.countP (call.sameBucket rates) = 0 := (count_found _ past).mp search
      have found : (past ++ [call]).find? (call.sameBucket rates) = some call := by
        rw [List.find?_append, search, List.find?_singleton, if_pos within]
        rfl
      have absent : store (redisKey call.key ((rates call.key).bucket call.time)) = none := here.trans (congrArg _ search)
      have checked := check_first (rates call.key) call.key call.time store absent
      have next := counted_put rates past store call call counted found
      rw [count, nothing] at next
      rw [RateCall.check, checked, nothing]
      exact ⟨next, rfl, call, found, rfl⟩
  | some first =>
      have found : (past ++ [call]).find? (call.sameBucket rates) = some first := by
        rw [List.find?_append, search]
        rfl
      have inside : call.sameBucket rates first = true := List.find?_some search
      have counting : 0 < past.countP (call.sameBucket rates) :=
        List.countP_pos_iff.mpr ⟨first, List.mem_of_find?_eq_some search, inside⟩
      have alive : call.time < first.time + (rates call.key).windowSeconds := by
        simp only [RateCall.sameBucket, RateCall.inBucket, decide_eq_true_eq] at inside
        exact bucket_outlived (rates call.key) first.time call.time inside.2
      have present := here.trans (congrArg _ search)
      have checked := check_again (rates call.key) call.key call.time _ _ store present counting alive
      have next := counted_put rates past store call first counted found
      rw [count] at next
      rw [RateCall.check, checked]
      exact ⟨next, rfl, first, found, by dsimp only; omega⟩

theorem store_after_append (past later : List RateCall) (store : RateLimitStore) :
    storeAfter rates (past ++ later) store = storeAfter rates later (storeAfter rates past store) := by
  induction past generalizing store with
  | nil => rfl
  | cons call past ih => exact ih _

theorem results_append (past later : List RateCall) (store : RateLimitStore) :
    results rates (past ++ later) store = results rates past store ++ results rates later (storeAfter rates past store) := by
  induction past generalizing store with
  | nil => rfl
  | cons call past ih => rw [List.cons_append, results, ih, results, storeAfter, List.cons_append]

theorem store_counted (past : List RateCall) : Counted rates past (storeAfter rates past fun _ => none) := by
  induction past using List.reverseRecOn with
  | nil => exact counted_empty rates
  | append_singleton past call ih =>
      rw [store_after_append]
      exact (check_counted rates past _ call ih).1

theorem result_allowed (past : List RateCall) (call : RateCall) : (result rates past call).allowed =
    decide (((past.countP (call.sameBucket rates) + 1 : Nat) : Int) ≤ (rates call.key).limit) :=
  (check_counted rates past _ call (store_counted rates past)).2.1

theorem result_reset (past : List RateCall) (call : RateCall) :
    ∃ first, (past ++ [call]).find? (call.sameBucket rates) = some first ∧
    call.time + (result rates past call).resetAfter = first.time + (rates call.key).windowSeconds :=
  (check_counted rates past _ call (store_counted rates past)).2.2

theorem admissions_snoc (key : String) (bucket : Nat) (past : List RateCall) (call : RateCall) :
    admissions rates key bucket (past ++ [call]) = admissions rates key bucket past ++
      if call.inBucket rates key bucket then [(result rates past call).allowed] else [] := by
  rw [admissions, results_append, List.filter_append, List.map_append]
  by_cases inside : call.inBucket rates key bucket = true
  · simp [results, inside, admissions, result]
  · simp [results, inside, admissions]

theorem admissions_limited (key : String) (bucket : Nat) (calls : List RateCall) : admissions rates key bucket calls =
    List.replicate (min (rates key).limit.toNat (calls.countP fun call => call.inBucket rates key bucket)) true ++
      List.replicate ((calls.countP fun call => call.inBucket rates key bucket) - (rates key).limit.toNat) false := by
  induction calls using List.reverseRecOn with
  | nil => simp [admissions, results]
  | append_singleton past call ih =>
      rw [admissions_snoc, ih, List.countP_append, List.countP_singleton]
      by_cases inside : call.inBucket rates key bucket = true
      · obtain ⟨rfl, rfl⟩ : call.key = key ∧ (rates key).bucket call.time = bucket := by simpa [RateCall.inBucket] using inside
        rw [if_pos inside, if_pos inside, result_allowed]
        generalize counted : past.countP (fun call' => call'.inBucket rates call.key ((rates call.key).bucket call.time)) = count
        have same : past.countP (call.sameBucket rates) = count := counted
        rw [same]
        by_cases below : count < (rates call.key).limit.toNat
        · have passes : ((count + 1 : Nat) : Int) ≤ (rates call.key).limit := by omega
          rw [decide_eq_true passes, Nat.min_eq_right (Nat.le_of_lt below), Nat.min_eq_right below,
            Nat.sub_eq_zero_of_le (Nat.le_of_lt below), Nat.sub_eq_zero_of_le below, List.replicate_succ']
          simp
        · have stops : ¬ ((count + 1 : Nat) : Int) ≤ (rates call.key).limit := by omega
          rw [decide_eq_false stops, Nat.min_eq_left (Nat.le_of_not_lt below), Nat.min_eq_left (by omega),
            Nat.sub_add_comm (Nat.le_of_not_lt below), List.replicate_succ', List.append_assoc]
      · rw [if_neg inside, if_neg inside, List.append_nil, Nat.add_zero]

theorem same_bucket_self (call : RateCall) : call.sameBucket rates call = true := by simp [RateCall.sameBucket, RateCall.inBucket]

theorem rejected_exceeds (past : List RateCall) (call : RateCall) (rejected : (result rates past call).allowed = false) :
    (rates call.key).limit.toNat < (past ++ [call]).countP (call.sameBucket rates) := by
  rw [result_allowed, decide_eq_false_iff_not] at rejected
  rw [List.countP_append, List.countP_singleton, if_pos (same_bucket_self rates call)]
  omega

theorem bucket_rejects (past : List RateCall) (call : RateCall) (time : Nat) (rejected : (result rates past call).allowed = false)
    (early : time < ((rates call.key).bucket call.time + 1) * (rates call.key).windowSeconds) :
    ¬ CanPass rates (past ++ [call]) call.key time := by
  rintro ⟨between, inOrder, passes⟩
  have after : call.time ≤ time := by
    rw [List.append_assoc, List.append_assoc] at inOrder
    have behind := (List.pairwise_append.mp inOrder).2.1
    exact (List.pairwise_cons.mp behind).1 ⟨call.key, time⟩ (by simp)
  have same : (rates call.key).bucket time = (rates call.key).bucket call.time :=
    Nat.le_antisymm (Nat.le_of_lt_succ ((Nat.div_lt_iff_lt_mul (rates call.key).positive).mpr early)) (Nat.div_le_div_right after)
  have test : RateCall.sameBucket rates ⟨call.key, time⟩ = call.sameBucket rates := by
    funext other
    rw [RateCall.sameBucket, RateCall.sameBucket, same]
  have full := rejected_exceeds rates past call rejected
  rw [result_allowed, decide_eq_true_eq, test, List.countP_append] at passes
  dsimp only at passes
  omega

theorem later_bucket_passes (past : List RateCall) (call : RateCall) (time : Nat) (ordered : InOrder (past ++ [call]))
    (admits : 0 < (rates call.key).limit)
    (late : ((rates call.key).bucket call.time + 1) * (rates call.key).windowSeconds ≤ time) :
    CanPass rates (past ++ [call]) call.key time := by
  have before : ∀ other ∈ past ++ [call], other.time ≤ call.time := by
    intro other member
    rcases List.mem_append.mp member with old | own
    · exact (List.pairwise_append.mp ordered).2.2 other old call List.mem_cons_self
    · exact Nat.le_of_eq (congrArg RateCall.time (List.mem_singleton.mp own))
  have next : (rates call.key).bucket call.time < (rates call.key).bucket time :=
    (Nat.le_div_iff_mul_le (rates call.key).positive).mpr late
  have inside : call.time ≤ time := by
    by_contra earlier
    exact absurd (Nat.div_le_div_right (c := (rates call.key).windowSeconds) (Nat.le_of_not_le earlier)) (Nat.not_le.mpr next)
  refine ⟨[], ?_, ?_⟩
  · rw [List.append_nil]
    refine List.pairwise_append.mpr ⟨ordered, List.pairwise_singleton _ _, fun other member last single => ?_⟩
    rw [List.mem_singleton.mp single]
    exact Nat.le_trans (before other member) inside
  · have nothing : (past ++ [call]).countP (RateCall.sameBucket rates ⟨call.key, time⟩) = 0 := by
      rw [List.countP_eq_zero]
      intro other member found
      obtain ⟨_, there⟩ : other.key = call.key ∧ (rates call.key).bucket other.time = (rates call.key).bucket time := by
        simpa [RateCall.sameBucket, RateCall.inBucket] using found
      have back : (rates call.key).bucket other.time ≤ (rates call.key).bucket call.time :=
        Nat.div_le_div_right (before other member)
      omega
    rw [List.append_nil, result_allowed, nothing, decide_eq_true_eq]
    exact admits

theorem can_pass_iff (past : List RateCall) (call : RateCall) (time : Nat) (ordered : InOrder (past ++ [call]))
    (rejected : (result rates past call).allowed = false) :
    CanPass rates (past ++ [call]) call.key time ↔
      0 < (rates call.key).limit ∧ ((rates call.key).bucket call.time + 1) * (rates call.key).windowSeconds ≤ time := by
  constructor
  · intro passing
    refine ⟨?_, Nat.le_of_not_lt fun early => bucket_rejects rates past call time rejected early passing⟩
    obtain ⟨between, _, passes⟩ := passing
    rw [result_allowed, decide_eq_true_eq] at passes
    dsimp only at passes
    omega
  · rintro ⟨admits, late⟩
    exact later_bucket_passes rates past call time ordered admits late

theorem split_at_count (test : RateCall → Bool) (calls : List RateCall) (number : Nat) (more : number < calls.countP test) :
    ∃ past call later, calls = past ++ call :: later ∧ test call = true ∧ past.countP test = number := by
  induction calls generalizing number with
  | nil => simp at more
  | cons call calls ih =>
      by_cases found : test call = true
      · cases number with
        | zero => exact ⟨[], call, calls, rfl, found, rfl⟩
        | succ number =>
            rw [List.countP_cons_of_pos found] at more
            obtain ⟨past, other, later, whole, tested, count⟩ := ih number (Nat.lt_of_succ_lt_succ more)
            exact ⟨call :: past, other, later, by rw [whole, List.cons_append], tested, by
              rw [List.countP_cons_of_pos found, count]⟩
      · rw [List.countP_cons_of_neg found] at more
        obtain ⟨past, other, later, whole, tested, count⟩ := ih number more
        exact ⟨call :: past, other, later, by rw [whole, List.cons_append], tested, by
          rw [List.countP_cons_of_neg found, count]⟩

theorem reset_least_iff (past : List RateCall) (call first : RateCall) (ordered : InOrder (past ++ [call]))
    (rejected : (result rates past call).allowed = false)
    (found : (past ++ [call]).find? (call.sameBucket rates) = some first) :
    IsLeast { time | CanPass rates (past ++ [call]) call.key time } (call.time + (result rates past call).resetAfter) ↔
      0 < (rates call.key).limit ∧ first.time = (rates call.key).bucket call.time * (rates call.key).windowSeconds := by
  obtain ⟨other, there, told⟩ := result_reset rates past call
  obtain rfl : first = other := by simpa [found] using there
  have times : { time | CanPass rates (past ++ [call]) call.key time } = { time | 0 < (rates call.key).limit ∧
      ((rates call.key).bucket call.time + 1) * (rates call.key).windowSeconds ≤ time } :=
    Set.ext fun time => can_pass_iff rates past call time ordered rejected
  rw [times, told, Nat.succ_mul]
  constructor
  · rintro ⟨⟨admits, late⟩, least⟩
    have begins := least ⟨admits, Nat.le_refl _⟩
    exact ⟨admits, by omega⟩
  · rintro ⟨admits, begins⟩
    rw [begins]
    exact ⟨⟨admits, Nat.le_refl _⟩, fun time passes => passes.2⟩

theorem find_prefix (test : RateCall → Bool) (front later : List RateCall) (first : RateCall)
    (found : front.find? test = some first) : (front ++ later).find? test = some first := by
  rw [List.find?_append, found]
  rfl

theorem window_kept_iff (key : String) (calls : List RateCall) (ordered : InOrder calls) :
    WindowKept rates key calls ↔ Aligned rates key calls := by
  constructor
  · rintro ⟨_, reset⟩ bucket exceeded
    obtain ⟨past, call, later, rfl, inside, count⟩ := split_at_count _ calls _ exceeded
    obtain ⟨rfl, rfl⟩ : call.key = key ∧ (rates key).bucket call.time = bucket := by simpa [RateCall.inBucket] using inside
    have rejected : (result rates past call).allowed = false := by
      rw [result_allowed, decide_eq_false_iff_not]
      have same : past.countP (call.sameBucket rates) = (rates call.key).limit.toNat := count
      omega
    obtain ⟨first, found, _⟩ := result_reset rates past call
    have begun : InOrder (past ++ [call]) := ordered.sublist (List.Sublist.append_left (by simp) past)
    have least := reset past call later rfl rfl rejected
    obtain ⟨admits, begins⟩ := (reset_least_iff rates past call first begun rejected found).mp least
    rw [List.append_cons]
    exact ⟨admits, first, find_prefix _ _ later first found, begins⟩
  · intro aligned
    refine ⟨fun bucket => admissions_limited rates key bucket calls, ?_⟩
    rintro past call later rfl rfl rejected
    obtain ⟨first, found, _⟩ := result_reset rates past call
    have begun : InOrder (past ++ [call]) := ordered.sublist (List.Sublist.append_left (by simp) past)
    have exceeded : (rates call.key).limit.toNat < (past ++ call :: later).countP (call.sameBucket rates) := by
      have full := rejected_exceeds rates past call rejected
      rw [List.append_cons, List.countP_append]
      omega
    obtain ⟨admits, other, there, begins⟩ := aligned ((rates call.key).bucket call.time) exceeded
    rw [List.append_cons] at there
    obtain rfl : first = other := by
      have whole := find_prefix _ _ later first found
      exact Option.some.inj (whole.symm.trans there)
    exact (reset_least_iff rates past call first begun rejected found).mpr ⟨admits, begins⟩

end Counting

-- Two calls in the last second of a minute, with one allowed: the second is told to wait
-- a minute and could pass a second later.
theorem reset_counts_from_first_call : ¬ ∀ (rates : String → Rate) (key : String) (calls : List RateCall), InOrder calls →
    WindowKept rates key calls := by
  intro claimed
  let rates : String → Rate := fun _ => ⟨1, 60, by decide⟩
  have kept := claimed rates "ip" [⟨"ip", 59⟩, ⟨"ip", 59⟩] (by simp [InOrder])
  have least := kept.reset [⟨"ip", 59⟩] ⟨"ip", 59⟩ [] rfl rfl (by decide)
  have passes : CanPass rates ([⟨"ip", 59⟩] ++ [⟨"ip", 59⟩]) "ip" 60 := ⟨[], by simp [InOrder], by decide⟩
  exact absurd (least.2 passes) (by decide)

theorem window_kept_sample : InOrder [⟨"ip", 60⟩, ⟨"ip", 61⟩] ∧
    (WindowKept (fun _ => ⟨1, 60, by decide⟩) "ip" [⟨"ip", 60⟩, ⟨"ip", 61⟩] ↔
      Aligned (fun _ => ⟨1, 60, by decide⟩) "ip" [⟨"ip", 60⟩, ⟨"ip", 61⟩]) :=
  have ordered : InOrder [⟨"ip", 60⟩, ⟨"ip", 61⟩] := by simp [InOrder]
  ⟨ordered, window_kept_iff _ "ip" _ ordered⟩

end DataPilot.Auth
