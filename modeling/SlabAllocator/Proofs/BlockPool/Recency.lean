import Mathlib.Data.List.Induction
import Mathlib.Order.Bounds.Basic
import SlabAllocator.Proofs.BlockPool.Depot

/-! Which block a block pool hands out next, told by the history of the pool alone. The free
blocks of the cache are a stack of those that came back, the last one on top, and below it
lie those that were never handed out, in the order of their addresses. -/
namespace SlabAllocator

namespace Depot

/-- A block goes out, or it comes back. -/
inductive Dealing
  | out (block : Nat)
  | back (block : Nat)
  deriving DecidableEq

/-- The block that is dealt with. -/
def Dealing.block : Dealing → Nat
  | .out block => block
  | .back block => block

/-- What is handed out or taken back by an act. -/
def dealt (depot : Depot) : Act → List Dealing
  | .take =>
    match depot.pool.alloc depot.system with
    | .error _ => []
    | .ok taken => [.out taken.block]
  | .give address =>
    match depot.pool.release depot.system address with
    | .error _ => []
    | .ok _ => [.back address]
  | .outside _ => []

/-- What is handed out and taken back by acts, the oldest first. -/
def history (depot : Depot) : List Act → List Dealing
  | [] => []
  | act :: rest => depot.dealt act ++ (depot.perform act).history rest

/-- A block that came back and has not been handed out since. -/
def Idle (history : List Dealing) (block : Nat) : Prop :=
  ∃ before after, history = before ++ .back block :: after ∧ .out block ∉ after

/-- The cache block that came back last, among those not handed out since. -/
def Hottest (cache : List Nat) (history : List Dealing) (block : Nat) : Prop :=
  block ∈ cache ∧ ∃ before after, history = before ++ .back block :: after ∧
    .out block ∉ after ∧ ∀ other ∈ cache, ¬ Idle after other

/-- The cache block that is due, if there is one: the hottest one, or the lowest one of those
that were never handed out. -/
inductive Due (cache : List Nat) (history : List Dealing) : Option Nat → Prop
  | again {block : Nat} (hottest : Hottest cache history block) : Due cache history (some block)
  | first {block : Nat} (cold : ∀ other ∈ cache, ¬ Idle history other)
      (lowest : IsLeast {other | other ∈ cache ∧ .out other ∉ history} block) :
      Due cache history (some block)
  | drained (cold : ∀ other ∈ cache, ¬ Idle history other)
      (used : ∀ other ∈ cache, .out other ∈ history) : Due cache history none

/-- The next request is answered with a block that is due, and the system is not asked. If
no block is due it is answered as the system answers a request for one block. -/
def Answers (depot : Depot) : Option Nat → Prop
  | some block => ∃ source, depot.pool.alloc depot.system = .ok ⟨block, source, depot.system, []⟩
  | none => (depot.pool.alloc depot.system).map (fun taken => (taken.block, taken.system)) =
      depot.pool.blockLayout >>= depot.system.request

/-- How many cache blocks were out at once, at each point of a run. -/
def levels (depot : Depot) (acts : List Act) : Set Nat :=
  {level | ∃ before, before <+: acts ∧ level = (depot.run before).cached.length}

variable {depot : Depot} {cache stack : List Nat} {past : List Dealing} {block high : Nat}

/-! ## Idle blocks -/

theorem not_idle_nil : ¬ Idle [] block := by
  rintro ⟨before, after, same, -⟩
  cases before <;> cases same

/-- A history with one dealing more is split before its end, or at it. -/
theorem split_concat {dealing : Dealing} {before after : List Dealing}
    (same : past ++ [dealing] = before ++ .back block :: after) :
    (dealing = .back block ∧ before = past ∧ after = []) ∨
      ∃ rest, after = rest ++ [dealing] ∧ past = before ++ .back block :: rest := by
  rcases List.eq_nil_or_concat after with rfl | ⟨rest, last, rfl⟩
  · obtain ⟨rfl, ends⟩ := List.append_inj' same rfl
    exact .inl ⟨List.head_eq_of_cons_eq ends, rfl, rfl⟩
  · have moved : past ++ [dealing] = (before ++ .back block :: rest) ++ [last] := by
      rw [same]
      simp
    obtain ⟨here, ends⟩ := List.append_inj' moved rfl
    obtain rfl := List.head_eq_of_cons_eq ends
    exact .inr ⟨rest, List.concat_eq_append, here⟩

theorem not_idle_out (past : List Dealing) (block : Nat) : ¬ Idle (past ++ [.out block]) block := by
  rintro ⟨before, after, same, kept⟩
  rcases split_concat same with ⟨other, -⟩ | ⟨rest, rfl, -⟩
  · cases other
  · exact kept (List.mem_append_right _ List.mem_cons_self)

/-- Dealings with other blocks do not matter. -/
theorem Idle.of_concat {dealing : Dealing} (idle : Idle (past ++ [dealing]) block)
    (apart : block ≠ dealing.block) : Idle past block := by
  obtain ⟨before, after, same, kept⟩ := idle
  rcases split_concat same with ⟨rfl, -⟩ | ⟨rest, rfl, split⟩
  · exact absurd rfl apart
  · exact ⟨before, rest, split, fun gone => kept (List.mem_append_left _ gone)⟩

/-- Two blocks cannot both have come back last. -/
theorem Hottest.unique {first second : Nat} (one : Hottest cache past first)
    (two : Hottest cache past second) : first = second := by
  obtain ⟨inFirst, before, after, split, kept, last⟩ := one
  obtain ⟨inSecond, before', after', split', kept', last'⟩ := two
  rw [split] at split'
  rcases List.append_eq_append_iff.1 split' with ⟨middle, -, same⟩ | ⟨middle, -, same⟩
  · cases middle with
    | nil => cases same; rfl
    | cons head tail =>
      cases same
      exact absurd ⟨tail, after', rfl, kept'⟩ (last second inSecond)
  · cases middle with
    | nil => cases same; rfl
    | cons head tail =>
      cases same
      exact absurd ⟨tail, after, rfl, kept⟩ (last' first inFirst)

/-! ## The stack of blocks that came back -/

/-- A stack of the idle blocks of a cache. What came back later lies above. -/
structure Ranked (cache : List Nat) (past : List Dealing) (stack : List Nat) : Prop where
  complete : ∀ block ∈ cache, Idle past block → block ∈ stack
  ranked : ∀ above block below, stack = above ++ block :: below → block ∈ cache ∧
    ∃ before after, past = before ++ .back block :: after ∧ .out block ∉ after ∧
      ∀ other ∈ cache, Idle after other → other ∈ above

namespace Ranked

theorem empty (cache : List Nat) : Ranked cache [] [] where
  complete := fun block _ idle => absurd idle not_idle_nil
  ranked := fun above _ below same => by cases above <;> cases same

theorem mem_cache (ranked : Ranked cache past stack) (member : block ∈ stack) : block ∈ cache := by
  obtain ⟨above, below, same⟩ := List.append_of_mem member
  exact (ranked.ranked above block below same).1

/-- The block on top is the hottest one. -/
theorem hottest (ranked : Ranked cache past (block :: stack)) : Hottest cache past block := by
  obtain ⟨member, before, after, split, kept, above⟩ := ranked.ranked [] block stack rfl
  exact ⟨member, before, after, split, kept,
    fun other its idle => List.not_mem_nil (above other its idle)⟩

/-- No block is idle if the stack is empty. -/
theorem cold (ranked : Ranked cache past []) : ∀ other ∈ cache, ¬ Idle past other :=
  fun other member idle => List.not_mem_nil (ranked.complete other member idle)

/-- A dealing with a block that is not on the stack, and that does not put it there. -/
theorem aside (ranked : Ranked cache past stack) {dealing : Dealing}
    (off : dealing.block ∉ stack) (still : dealing = .out dealing.block ∨ dealing.block ∉ cache) :
    Ranked cache (past ++ [dealing]) stack := by
  -- No cache block gets idle by such a dealing, at whatever point the history is split.
  have older {history : List Dealing} {block : Nat} (member : block ∈ cache)
      (idle : Idle (history ++ [dealing]) block) : Idle history block := by
    apply idle.of_concat
    rintro rfl
    rcases still with out | foreign
    · rw [out] at idle
      exact not_idle_out history _ idle
    · exact foreign member
  constructor
  · exact fun block member idle => ranked.complete block member (older member idle)
  · intro above block below same
    obtain ⟨member, before, after, split, kept, higher⟩ := ranked.ranked above block below same
    refine ⟨member, before, after ++ [dealing], by rw [split]; simp, ?_,
      fun other its idle => higher other its (older its idle)⟩
    intro gone
    rcases List.mem_append.1 gone with old | new
    · exact kept old
    · obtain rfl := List.mem_singleton.1 new
      apply off
      rw [same]
      exact List.mem_append_right _ List.mem_cons_self

/-- A cache block that comes back goes on top. -/
theorem back (ranked : Ranked cache past stack) (member : block ∈ cache) :
    Ranked cache (past ++ [.back block]) (block :: stack) := by
  -- The block is on top, so nothing is asked of the others but to stay where they were.
  constructor
  · intro other its idle
    by_cases same : other = block
    · rw [same]
      exact List.mem_cons_self
    · exact List.mem_cons_of_mem _ (ranked.complete other its (idle.of_concat same))
  · intro above other below same
    cases above with
    | nil =>
      cases same
      exact ⟨member, past, [], rfl, List.not_mem_nil, fun _ _ idle => absurd idle not_idle_nil⟩
    | cons head rest =>
      cases same
      obtain ⟨its, before, after, split, kept, higher⟩ := ranked.ranked rest other below rfl
      refine ⟨its, before, after ++ [.back block], by rw [split]; simp, ?_, ?_⟩
      · intro gone
        rcases List.mem_append.1 gone with old | new
        · exact kept old
        · cases List.mem_singleton.1 new
      · intro third own idle
        by_cases same : third = block
        · rw [same]
          exact List.mem_cons_self
        · exact List.mem_cons_of_mem _ (higher third own (idle.of_concat same))

/-- The block on top is handed out. -/
theorem out (ranked : Ranked cache past (block :: stack)) (once : block ∉ stack) :
    Ranked cache (past ++ [.out block]) stack := by
  -- Whoever is idle after this dealing was idle before, and is not the block that left.
  have older {history : List Dealing} {other : Nat} (idle : Idle (history ++ [.out block]) other) :
      other ≠ block ∧ Idle history other := by
    have apart : other ≠ block := by
      rintro rfl
      exact not_idle_out history _ idle
    exact ⟨apart, idle.of_concat apart⟩
  constructor
  · intro other its idle
    obtain ⟨apart, idle⟩ := older idle
    exact List.mem_of_ne_of_mem apart (ranked.complete other its idle)
  · rintro above other below rfl
    obtain ⟨its, before, after, split, kept, higher⟩ :=
      ranked.ranked (block :: above) other below rfl
    refine ⟨its, before, after ++ [.out block], by rw [split]; simp, ?_, ?_⟩
    · intro gone
      rcases List.mem_append.1 gone with old | new
      · exact kept old
      · cases List.mem_singleton.1 new
        exact once (List.mem_append_right _ List.mem_cons_self)
    · intro third own idle
      obtain ⟨apart, idle⟩ := older idle
      exact List.mem_of_ne_of_mem apart (higher third own idle)

end Ranked

/-! ## The deque -/

/-- The deque of a pool: the blocks that came back, and below them what was never handed
out. That begins at a mark, which is how many blocks were out at once. -/
structure Layered (cache free : List Nat) (past : List Dealing) (stack : List Nat) (high : Nat) :
    Prop where
  layers : free = stack ++ cache.drop high
  ranked : Ranked cache past stack
  used : ∀ block ∈ cache, .out block ∈ past ↔ block ∈ cache.take high
  inside : high ≤ cache.length

namespace Layered

variable {free rest : List Nat}

theorem opening (cache : List Nat) : Layered cache cache [] [] 0 where
  layers := rfl
  ranked := .empty cache
  used := fun _ _ => iff_of_false List.not_mem_nil List.not_mem_nil
  inside := Nat.zero_le _

/-- A block on the stack has been out before. -/
theorem mem_used (layered : Layered cache free past stack high) (once : free.Nodup)
    (member : block ∈ stack) : block ∈ cache.take high := by
  have whole := layered.ranked.mem_cache member
  rw [← List.take_append_drop high cache] at whole
  rw [layered.layers] at once
  rcases List.mem_append.1 whole with used | below
  · exact used
  · exact absurd below ((List.nodup_append'.1 once).2.2 member)

/-- No more blocks are out than the mark says. -/
theorem length_le (layered : Layered cache free past stack high) :
    cache.length - free.length ≤ high := by
  have length := congrArg List.length layered.layers
  rw [List.length_append, List.length_drop] at length
  omega

/-- The next block goes out. The mark rises if nothing is on the stack. -/
theorem out (layered : Layered cache free past stack high) (once : free.Nodup)
    (next : free = block :: rest) : ∃ stack, Layered cache rest (past ++ [.out block]) stack
      (max (cache.length - rest.length) high) := by
  have layers := layered.layers
  rw [next] at layers
  have length := congrArg List.length layers
  rw [List.length_append, List.length_drop, List.length_cons] at length
  have inside := layered.inside
  -- Either the stack is used up and the mark moves on, or its top goes and the mark stays.
  cases stack with
  | nil =>
    have marked : cache[high]? = some block := by
      rw [← List.head?_drop, ← List.nil_append (List.drop high cache), ← layers]
      rfl
    have mark : max (cache.length - rest.length) high = high + 1 := by
      rw [List.length_nil] at length
      omega
    have kept : cache.take (high + 1) = cache.take high ++ [block] := by
      rw [List.take_add_one, marked]
      rfl
    rw [mark]
    refine ⟨[], ?_, layered.ranked.aside List.not_mem_nil (.inl rfl), ?_, ?_⟩
    · have tail := congrArg List.tail layers
      rwa [List.nil_append, List.tail_drop] at tail
    · intro other member
      rw [kept, List.mem_append, List.mem_append, layered.used other member]
      simp
    · rw [List.length_nil] at length
      omega
  | cons top below =>
    obtain rfl : block = top := (List.cons.inj layers).1
    have mark : max (cache.length - rest.length) high = high := by
      rw [List.length_cons] at length
      omega
    have apart : block ∉ below := by
      rw [next, layers] at once
      exact fun member => (List.nodup_cons.1 once).1 (List.mem_append_left _ member)
    have again := layered.mem_used once List.mem_cons_self
    rw [mark]
    refine ⟨below, (List.cons.inj layers).2, layered.ranked.out apart, ?_, inside⟩
    intro other member
    rw [List.mem_append, layered.used other member]
    constructor
    · rintro (old | new)
      · exact old
      · cases List.mem_singleton.1 new
        exact again
    · exact .inl

/-- A cache block comes back. -/
theorem back (layered : Layered cache free past stack high) (member : block ∈ cache) :
    Layered cache (block :: free) (past ++ [.back block]) (block :: stack) high where
  layers := congrArg (block :: ·) layered.layers
  ranked := layered.ranked.back member
  used other its := by
    rw [List.mem_append, layered.used other its]
    simp
  inside := layered.inside

/-- A block of the system goes out or comes back. -/
theorem foreign (layered : Layered cache free past stack high) {dealing : Dealing}
    (outside : dealing.block ∉ cache) :
    Layered cache free (past ++ [dealing]) stack high where
  layers := layered.layers
  ranked := layered.ranked.aside (fun member => outside (layered.ranked.mem_cache member))
    (.inr outside)
  used other its := by
    rw [List.mem_append, layered.used other its]
    refine or_iff_left fun new => outside ?_
    rw [← List.mem_singleton.1 new]
    exact its
  inside := layered.inside

/-- What the pool has due is the block on top of the deque. -/
theorem due (layered : Layered cache free past stack high) (sorted : cache.Pairwise (· < ·)) :
    Due cache past free.head? := by
  cases stack with
  | cons top below =>
    rw [layered.layers]
    exact .again layered.ranked.hottest
  | nil =>
    have cold := layered.ranked.cold
    rw [layered.layers, List.nil_append]
    cases rest : cache.drop high with
    | nil =>
      refine .drained cold fun other member => (layered.used other member).2 ?_
      rw [← List.take_append_drop high cache, rest, List.append_nil] at member
      exact member
    | cons first more =>
      have split := List.take_append_drop high cache
      rw [rest] at split
      rw [← split] at sorted
      obtain ⟨-, later, below⟩ := List.pairwise_append.1 sorted
      -- Above the mark lie exactly the blocks that were never out.
      have unused (other : Nat) : other ∈ cache ∧ .out other ∉ past ↔ other ∈ first :: more := by
        constructor
        · rintro ⟨member, never⟩
          rw [layered.used other member] at never
          rw [← split] at member
          exact (List.mem_append.1 member).resolve_left never
        · intro member
          have whole : other ∈ cache := by
            rw [← split]
            exact List.mem_append_right _ member
          refine ⟨whole, fun gone => ?_⟩
          exact Nat.lt_irrefl other (below other ((layered.used other whole).1 gone) other member)
      refine .first cold ⟨(unused first).2 List.mem_cons_self, fun other its => ?_⟩
      rcases List.mem_cons.1 ((unused other).1 its) with rfl | behind
      · exact Nat.le_refl _
      · exact Nat.le_of_lt (List.rel_of_pairwise_cons later behind)

end Layered

/-- Nothing but one block is due. -/
theorem Due.unique {one two : Option Nat} (first : Due cache past one)
    (second : Due cache past two) : one = two := by
  have idle {block : Nat} (hottest : Hottest cache past block) :
      block ∈ cache ∧ Idle past block := by
    obtain ⟨member, before, after, split, kept, -⟩ := hottest
    exact ⟨member, before, after, split, kept⟩
  -- The three kinds exclude each other: a hot block is idle, a cold one is not, a used one was out.
  cases first with
  | again hottest =>
    cases second with
    | again other => rw [hottest.unique other]
    | first cold _ => exact absurd (idle hottest).2 (cold _ (idle hottest).1)
    | drained cold _ => exact absurd (idle hottest).2 (cold _ (idle hottest).1)
  | first cold lowest =>
    cases second with
    | again other => exact absurd (idle other).2 (cold _ (idle other).1)
    | first _ other => rw [lowest.unique other]
    | drained _ used => exact absurd (used _ lowest.1.1) lowest.1.2
  | drained cold used =>
    cases second with
    | again other => exact absurd (idle other).2 (cold _ (idle other).1)
    | first _ other => exact absurd (used _ other.1.1) other.1.2
    | drained => rfl

variable {count : Nat} {act : Act} {acts : List Act}

/-! ## One act -/

/-- What an honest act deals with, and what becomes of the deque. -/
inductive Moved (depot : Depot) (act : Act) : Prop
  /-- Nothing goes out or comes back. -/
  | still (dealt : depot.dealt act = []) (free : (depot.perform act).pool.free = depot.pool.free)
  /-- The next block of the deque goes out. -/
  | out (block : Nat) (dealt : depot.dealt act = [.out block])
      (free : depot.pool.free = block :: (depot.perform act).pool.free)
  /-- A cache block comes back. -/
  | back (block : Nat) (member : block ∈ depot.pool.cache) (dealt : depot.dealt act = [.back block])
      (free : (depot.perform act).pool.free = block :: depot.pool.free)
  /-- A block of the system goes out or comes back. -/
  | foreign (dealing : Dealing) (dealt : depot.dealt act = [dealing])
      (outside : dealing.block ∉ depot.pool.cache)
      (free : (depot.perform act).pool.free = depot.pool.free)

/-- The blocks of the cache stay where they are. -/
theorem cache_perform (depot : Depot) (act : Act) :
    (depot.perform act).pool.cache = depot.pool.cache := by
  -- The cache is where the region is, and neither the region nor the size moves.
  cases act with
  | take =>
    rcases depot.take_cases with same | ⟨_, _, _, performed⟩ | ⟨_, _, _, _, _, _, performed⟩
    · rw [same]
    · rw [performed]
      rfl
    · rw [performed]
      rfl
  | give address =>
    unfold perform
    simp only
    cases gave : depot.pool.release depot.system address with
    | error fault => rfl
    | ok result =>
      obtain ⟨pool, system⟩ := result
      obtain ⟨-, -, rfl, -⟩ | ⟨-, rfl, -⟩ := BlockPool.release_cases gave
      · rfl
      · rfl
  | outside system => rfl

namespace Ordered

theorem length_cache (ordered : depot.Ordered count) : depot.pool.cache.length = count := by
  rw [← ordered.count, ← ordered.keeps.size, ← List.length_append]
  exact ordered.keeps.split.length_eq.symm

theorem length_cached (ordered : depot.Ordered count) :
    depot.cached.length = depot.pool.cache.length - depot.pool.free.length := by
  have size := ordered.keeps.size
  rw [ordered.length_cache, ← ordered.count]
  omega

/-- What is outside the cache region is no cache block. -/
theorem not_mem_cache (ordered : depot.Ordered count) (outer : depot.pool.contains block = false) :
    block ∉ depot.pool.cache := by
  intro member
  rw [(ordered.keeps.contains_of_cached (ordered.keeps.split.mem_iff.2 member)).1] at outer
  cases outer

theorem moved (ordered : depot.Ordered count) (honest : depot.Honest act) :
    depot.Moved act := by
  cases act with
  | take =>
    cases took : depot.pool.alloc depot.system with
    | error fault =>
      have same : depot.perform .take = depot := by simp only [Depot.perform, took]
      exact .still (by simp only [dealt, took]) (by rw [same])
    | ok taken =>
      have dealt : depot.dealt .take = [.out taken.block] := by simp only [dealt, took]
      have performed : (depot.perform .take).pool = taken.source := by
        simp only [Depot.perform, took]
        split <;> rfl
      obtain ⟨-, ⟨rest, free, source, -⟩ | ⟨-, -, source, system⟩⟩ := BlockPool.alloc_cases took
      · exact .out taken.block dealt (by rw [performed, source, free])
      · have new : ¬ taken.system.granted = depot.system.granted := by
          rw [system]
          exact List.cons_ne_self _ _
        have granted : depot.granted = some taken.block := by
          simp only [Depot.granted, took, if_neg new]
        -- What is fresh is apart from the cache region.
        have outer := BlockPool.not_contains_of_apart (ordered.keeps.blockSize_pos ordered.ready)
          fun region set => (honest _ granted).2 region
            (List.mem_append_left _ (Option.mem_toList.2 set))
        exact .foreign (.out taken.block) dealt (ordered.not_mem_cache outer)
          (by rw [performed, source])
  | give address =>
    rcases honest with out | ⟨inside, off⟩
    · obtain ⟨pool, system, gave, back⟩ := ordered.give_cases out
      have dealt : depot.dealt (.give address) = [.back address] := by simp only [dealt, gave]
      obtain ⟨mine, rfl, performed⟩ | ⟨loan, rfl, performed⟩ := back
      · have member := ordered.keeps.split.mem_iff.1 (List.mem_append_right _ mine)
        exact .back address member dealt (by rw [performed])
      · have outer := ordered.keeps.apart address loan
        exact .foreign (.back address) dealt (ordered.not_mem_cache outer) (by rw [performed])
    · obtain ⟨refused, same⟩ := give_rejected inside off
      exact .still (by simp only [dealt, refused]) (by rw [same])
  | outside system => exact .still rfl rfl

/-- The deque after one act more. The mark rises if more blocks are out than ever before. -/
theorem layered (ordered : depot.Ordered count) (honest : depot.Honest act)
    (layered : Layered depot.pool.cache depot.pool.free past stack high) :
    ∃ stack, Layered (depot.perform act).pool.cache (depot.perform act).pool.free
      (past ++ depot.dealt act) stack (max (depot.perform act).cached.length high) := by
  have low := layered.length_le
  have once := (ordered.keeps.once ordered.ready).of_append_left
  rw [(ordered.perform honest).length_cached, depot.cache_perform act]
  rcases ordered.moved honest with ⟨dealt, free⟩ | ⟨block, dealt, free⟩ |
    ⟨block, member, dealt, free⟩ | ⟨dealing, dealt, outside, free⟩
  case still =>
    rw [dealt, free, List.append_nil, max_eq_right low]
    exact ⟨stack, layered⟩
  case out =>
    rw [dealt]
    exact layered.out once free
  -- What comes back was counted as out, so the mark is not passed.
  case back =>
    have lower : depot.pool.cache.length - (block :: depot.pool.free).length ≤ high := by
      rw [List.length_cons]
      omega
    rw [dealt, free, max_eq_right lower]
    exact ⟨block :: stack, layered.back member⟩
  case foreign =>
    rw [dealt, free, max_eq_right low]
    exact ⟨stack, layered.foreign outside⟩

/-- A pool gives out what is on top of its deque, or asks the system. -/
theorem answers (ordered : depot.Ordered count) : depot.Answers depot.pool.free.head? := by
  have ready : ¬ ¬ depot.pool.ready = true := not_not.2 ordered.ready
  cases free : depot.pool.free with
  | cons block rest =>
    refine ⟨{ depot.pool with free := rest, cacheHits := depot.pool.cacheHits + 1 }, ?_⟩
    unfold BlockPool.alloc
    rw [if_neg ready, free]
  | nil =>
    show (depot.pool.alloc depot.system).map _ = _
    unfold BlockPool.alloc
    rw [if_neg ready, free]
    cases depot.pool.blockLayout with
    | error fault => rfl
    | ok layout =>
      simp only [bind, Except.bind]
      cases depot.system.request layout <;> rfl

end Ordered

/-! ## A run -/

theorem run_concat (depot : Depot) (acts : List Act) (act : Act) :
    depot.run (acts ++ [act]) = (depot.run acts).perform act := by
  induction acts generalizing depot with
  | nil => rfl
  | cons first rest ih => exact ih (depot.perform first)

theorem history_concat (depot : Depot) (acts : List Act) (act : Act) :
    depot.history (acts ++ [act]) = depot.history acts ++ (depot.run acts).dealt act := by
  induction acts generalizing depot with
  | nil => exact List.append_nil _
  | cons first rest ih =>
    have later := congrArg (depot.dealt first ++ ·) (ih (depot.perform first))
    exact later.trans (List.append_assoc _ _ _).symm

theorem honestRun_concat {depot : Depot} (honest : depot.HonestRun (acts ++ [act])) :
    depot.HonestRun acts ∧ (depot.run acts).Honest act := by
  induction acts generalizing depot with
  | nil => exact ⟨trivial, honest.1⟩
  | cons first rest ih =>
    obtain ⟨here, later⟩ := honest
    obtain ⟨before, last⟩ := ih later
    exact ⟨⟨here, before⟩, last⟩

/-- One act more is one level more. -/
theorem levels_concat (depot : Depot) (acts : List Act) (act : Act) :
    depot.levels (acts ++ [act]) =
      insert (depot.run (acts ++ [act])).cached.length (depot.levels acts) := by
  ext level
  simp only [levels, List.prefix_concat_iff, Set.mem_ofPred_eq, Set.mem_insert_iff, or_and_right,
    exists_or, exists_eq_left]

theorem Ordered.layered_run (ordered : depot.Ordered count) (closed : depot.cached = [])
    (honest : depot.HonestRun acts)
    (layered : Layered depot.pool.cache depot.pool.free [] [] 0) :
    ∃ stack high, Layered (depot.run acts).pool.cache (depot.run acts).pool.free
      (depot.history acts) stack high ∧ IsGreatest (depot.levels acts) high := by
  -- From the last act backwards: the mark is the greatest level of all prefixes, the whole run
  -- included.
  induction acts using List.reverseRecOn with
  | nil =>
    refine ⟨[], 0, layered, ⟨[], List.prefix_rfl, ?_⟩, ?_⟩
    · show 0 = depot.cached.length
      rw [closed]
      rfl
    · rintro level ⟨before, short, rfl⟩
      obtain rfl := List.prefix_nil.1 short
      show depot.cached.length ≤ 0
      rw [closed]
      exact Nat.le_refl 0
  | append_singleton acts act ih =>
    obtain ⟨before, last⟩ := honestRun_concat honest
    obtain ⟨stack, high, layered, greatest⟩ := ih before
    obtain ⟨next, layered⟩ := (ordered.run before).layered last layered
    rw [history_concat, levels_concat, run_concat]
    exact ⟨next, _, layered, greatest.insert _⟩

/-- What a pool hands out, told by the history of the pool. -/
structure Recalls (blockSize count : Nat) (history : List Dealing) (levels : Set Nat)
    (depot : Depot) : Prop where
  /-- A block is due or the cache is drained, and nothing else is due at the same time. -/
  decided : ∃ due, Due depot.pool.cache history due ∧
    ∀ other, Due depot.pool.cache history other → other = due
  /-- The pool answers with what is due. -/
  answers : ∀ due, Due depot.pool.cache history due → depot.Answers due
  /-- The cache blocks are the blocks of the region in the order of their addresses. -/
  cache : ∀ region ∈ depot.pool.region, depot.pool.cache =
    (List.range count).map fun position => region.start + position * blockSize
  /-- The cache blocks that were ever handed out come first in the region, and there are as
  many of them as were out at once. -/
  used : ∃ high ≤ count, IsGreatest levels high ∧
    ∀ block ∈ depot.pool.cache, .out block ∈ history ↔ block ∈ depot.pool.cache.take high

/-- **The hottest block first.** Whatever a pool was set up with, and whatever is taken from
it and given back after that, the next request is answered with the cache block that came
back last and is still there; if none is, with the lowest cache block that was never handed
out; and by the system only if every cache block is out. -/
theorem hottest_first {blockSize : Nat} {system after : System} {pool : BlockPool}
    (made : (BlockPool.new blockSize).init system count = .ok (pool, after))
    (aligned : ∀ region ∈ pool.region, region.start % pageSize = 0)
    (honest : (opening pool after).HonestRun acts) :
    ((opening pool after).run acts).Recalls blockSize count ((opening pool after).history acts)
      ((opening pool after).levels acts) := by
  have start := Ordered.opening made aligned
  have full : pool.free = pool.cache := by
    obtain ⟨-, -, -, ⟨-, rfl, -⟩ | ⟨-, _, rfl, -⟩⟩ := BlockPool.init_cases made <;> rfl
  have fresh : Layered pool.cache pool.free [] [] 0 := by
    rw [full]
    exact .opening pool.cache
  -- At the start everything is free and in the order of the cache; the layers are kept from there.
  obtain ⟨stack, high, layered, greatest⟩ := start.layered_run rfl honest fresh
  have ordered := start.run honest
  have due := layered.due (BlockPool.cache_sorted (ordered.keeps.blockSize_pos ordered.ready))
  have size := (opening pool after).blockSize_run acts
  rw [show (opening pool after).pool.blockSize = blockSize from
    ((BlockPool.Keeps.new blockSize).init made).2.1] at size
  refine ⟨⟨_, due, fun other its => its.unique due⟩, fun other its => ?_, fun region set => ?_,
    high, ?_, greatest, layered.used⟩
  · rw [its.unique due]
    exact ordered.answers
  · unfold BlockPool.cache BlockPool.cacheBlocksFrom
    rw [show ((opening pool after).run acts).pool.region = some region from set, ordered.count, size]
  · rw [← ordered.length_cache]
    exact layered.inside

/-- The cache is drained and the system is asked. An address between two boundaries is rejected,
and then all blocks come back. -/
def homecoming : List Act :=
  [.take, .take, .take, .give (Region.spacing + 8), .give Region.spacing,
    .give (Region.spacing + 4096), .give (2 * Region.spacing + 8192)]

theorem hottest_first_homecoming :
    (BlockPool.new 4096).init fivePages 2 = .ok (twoBlocks, threePages) ∧
      (opening twoBlocks threePages).HonestRun homecoming ∧
      (opening twoBlocks threePages).history homecoming =
        [.out Region.spacing, .out (Region.spacing + 4096), .out (2 * Region.spacing + 8192),
          .back Region.spacing, .back (Region.spacing + 4096),
          .back (2 * Region.spacing + 8192)] ∧
      ((opening twoBlocks threePages).run homecoming).Recalls 4096 2
        ((opening twoBlocks threePages).history homecoming)
        ((opening twoBlocks threePages).levels homecoming) := by
  have made : (BlockPool.new 4096).init fivePages 2 = .ok (twoBlocks, threePages) := rfl
  have honest : (opening twoBlocks threePages).HonestRun homecoming := by decide +kernel
  exact ⟨made, honest, by decide +kernel, hottest_first made (by decide +kernel) honest⟩

end Depot

end SlabAllocator
