import SlabAllocator.Proofs.Allocator.Holdings
import SlabAllocator.Proofs.Allocator.Interlude
import SlabAllocator.Proofs.ElementPool.Counters

/-! Which elements acts hand out and which they release. The books grow by the ones and
shrink by the others, and the counters of a pool follow act by act: `population_step` tells
the books, `lasts` what becomes of a pool, `turn` the counters, and `awaits_step` that every
element of a new slab was asked for before. -/
namespace SlabAllocator

open ElementPool

variable {σ : Type}

/-- The act is a request for an element. -/
def Act.asks : Act σ → Bool
  | .request _ => true
  | _ => false

namespace World

/-- How many of these elements are of a pool. -/
def countOf (name : String) (elements : List (String × Nat)) : Nat :=
  elements.countP fun element => element.1 = name

/-- Elements of a pool in the books. -/
def population (world : World σ) (name : String) : Nat :=
  countOf name world.live

/-- Blocks on their way to a pool. -/
def awaits (world : World σ) (name : String) : Nat :=
  world.windows.countP fun window => window.pool = name

/-- The element that an act releases: its pool takes the address back, whatever becomes of
the block if the slab is empty then. -/
def returns (world : World σ) : Act σ → List (String × Nat)
  | .release name address => if world.accepts name address then [(name, address)] else []
  | _ => []

variable {world : World σ} {act : Act σ} {name other : String} {tenant : Tenant} {address : Nat}

/-! ## Counting -/

theorem countOf_append (name : String) (first second : List (String × Nat)) :
    countOf name (first ++ second) = countOf name first + countOf name second :=
  List.countP_append

theorem countOf_single (other name : String) (address : Nat) :
    countOf name [(other, address)] = if other = name then 1 else 0 := by
  unfold countOf
  rw [List.countP_singleton]
  simp only [decide_eq_true_eq]

theorem countOf_erase {elements : List (String × Nat)} {element : String × Nat}
    (member : element ∈ elements) (name : String) :
    countOf name (elements.erase element) + countOf name [element] = countOf name elements := by
  rw [← countOf_append]
  exact ((List.perm_append_singleton _ _).trans (List.perm_cons_erase member).symm).countP_eq _

theorem countOf_entries (other name : String) (outcome : Except Fault Nat) :
    countOf name (entries other outcome) = if other = name ∧ outcome.isOk then 1 else 0 := by
  cases outcome with
  | error fault => exact (if_neg fun absurd => by cases absurd.2).symm
  | ok address =>
    refine (countOf_single other name address).trans ?_
    simp only [Except.isOk, Except.toBool, and_true]

/-! ## Addresses that are taken back -/

theorem of_accepts (accepted : world.accepts name address = true) :
    ∃ tenant freed, world.allocator.pools.find? name = some tenant ∧
      tenant.pool.free world.allocator.memory address = .ok freed := by
  unfold accepts pool? at accepted
  cases found : world.allocator.pools.find? name with
  | none =>
    rw [found] at accepted
    cases accepted
  | some tenant =>
    rw [found] at accepted
    cases taken : tenant.pool.free world.allocator.memory address with
    | error fault =>
      simp only [Option.map_some, taken] at accepted
      cases accepted
    | ok freed => exact ⟨tenant, freed, rfl, taken⟩

theorem returns_accepted (accepted : world.accepts name address = true) :
    world.returns (.release name address) = [(name, address)] :=
  if_pos accepted

theorem returns_refused (refused : ¬ world.accepts name address = true) :
    world.returns (.release name address) = [] :=
  if_neg refused

variable [BlockSource σ]

/-- The element that an act hands out: a request is answered from a slab with room, or the
block that arrived for it is carved. -/
def handouts (world : World σ) : Act σ → List (String × Nat)
  | .request name =>
    match world.allocator.seek name with
    | (.settled outcome, _) => entries name outcome
    | (.awaiting _ _, _) => []
  | .publish window =>
    entries window.pool (world.allocator.publish window.pool window.region.start).1
  | _ => []

/-! ## One act -/

theorem along_append {β : Type} (yield : World σ → Act σ → List β) (world : World σ)
    (first second : List (Act σ)) : world.along yield (first ++ second) =
      world.along yield first ++ (world.run first).along yield second := by
  induction first generalizing world with
  | nil => rfl
  | cons act rest ih =>
    rw [List.cons_append, along, along, ih, List.append_assoc]
    rfl

theorem along_concat {β : Type} (yield : World σ → Act σ → List β) (world : World σ)
    (acts : List (Act σ)) (act : Act σ) :
    world.along yield (acts ++ [act]) = world.along yield acts ++ yield (world.run acts) act := by
  rw [along_append]
  exact congrArg _ (List.append_nil _)

theorem handouts_settled {outcome : Except Fault Nat} {after : Allocator σ}
    (sought : world.allocator.seek name = (.settled outcome, after)) :
    world.handouts (.request name) = entries name outcome := by
  unfold handouts
  simp only [sought]

theorem handouts_awaiting {source : String} {block : Nat} {after : Allocator σ}
    (sought : world.allocator.seek name = (.awaiting source block, after)) :
    world.handouts (.request name) = [] := by
  unfold handouts
  simp only [sought]

theorem books_take (world : World σ) (source : String) :
    (world.perform (.take source)).live = world.live ∧
      (world.perform (.take source)).windows = world.windows := by
  unfold perform
  simp only
  split <;> exact ⟨rfl, rfl⟩

theorem books_give (world : World σ) (loan : Loan) :
    (world.perform (.give loan)).live = world.live ∧
      (world.perform (.give loan)).windows = world.windows := by
  unfold perform
  simp only
  split <;> exact ⟨rfl, rfl⟩

/-- The books of a pool that does not end: what was live or is handed out is live still or
released. -/
theorem population_step (sound : world.Sound) (honest : world.Honest act)
    (lasting : act ≠ .drop name) :
    (world.perform act).population name + countOf name (world.returns act) =
      world.population name + countOf name (world.handouts act) := by
  obtain ⟨-, obeys⟩ := honest
  cases act with
  | create => rfl
  | setUp => rfl
  | request other =>
    cases sought : world.allocator.seek other with
    | mk progress after =>
      cases progress with
      | settled outcome =>
        rw [perform_request sought, handouts_settled sought]
        exact countOf_append _ _ _
      | awaiting source block =>
        rw [handouts_awaiting sought, perform_awaiting sought]
        rfl
  | publish window =>
    rw [perform_publish world window rfl]
    exact countOf_append _ _ _
  -- A refused release returns nothing and leaves the books alone.
  | release other address =>
    unfold population
    by_cases accepted : world.accepts other address = true
    · obtain ⟨tenant, freed, found, taken⟩ := of_accepts accepted
      obtain ⟨-, -, live, gone⟩ := sound.release_taken obeys found taken
      rw [returns_accepted accepted, gone]
      exact countOf_erase live name
    · rw [returns_refused accepted]
      exact congrArg (countOf name) (if_neg accepted)
  | write => rfl
  | take source =>
    unfold population
    rw [(world.books_take source).1]
    rfl
  | give loan =>
    unfold population
    rw [(world.books_give loan).1]
    rfl
  | drop other =>
    have different : other ≠ name := fun same => lasting (congrArg Act.drop same)
    show countOf name (world.live.filter _) = countOf name world.live
    unfold countOf
    rw [List.countP_filter]
    refine List.countP_congr fun element _ => ?_
    simp only [Bool.and_eq_true, decide_eq_true_eq]
    exact ⟨And.left, fun same => ⟨same, fun absurd => different (absurd.symm.trans same)⟩⟩
  | outside => rfl

/-- Every element that a new slab hands out was asked for by a request of its own. -/
theorem awaits_step (obeys : world.Obeys act) (name : String) :
    countOf name (world.handouts act) + (world.perform act).awaits name ≤
      world.awaits name + if act.asks then 1 else 0 := by
  cases act with
  | request other =>
    cases sought : world.allocator.seek other with
    | mk progress after =>
      cases progress with
      | settled outcome =>
        rw [perform_request sought, handouts_settled sought, countOf_entries]
        show _ + world.awaits name ≤ world.awaits name + 1
        split <;> omega
      | awaiting source block =>
        rw [handouts_awaiting sought, perform_awaiting sought]
        show 0 + List.countP _ (_ :: world.windows) ≤ world.awaits name + 1
        rw [List.countP_cons]
        unfold awaits
        split <;> omega
  | publish window =>
    -- A window that closes turns into the element that is handed out, or into nothing.
    have before : world.awaits name = (world.windows.erase window).countP
        (fun window => window.pool = name) + if window.pool = name then 1 else 0 := by
      refine ((List.perm_cons_erase obeys).countP_eq _).trans ?_
      rw [List.countP_cons]
      simp only [decide_eq_true_eq]
    rw [perform_publish world window rfl, before]
    unfold handouts
    simp only
    rw [countOf_entries]
    show (if window.pool = name ∧ _ then 1 else 0) + List.countP _ (world.windows.erase window) ≤ _
    by_cases mine : window.pool = name
    · rw [if_pos mine]
      split <;> omega
    · rw [if_neg fun both => mine both.1]
      omega
  | take source =>
    unfold awaits
    rw [(world.books_take source).2]
    exact Nat.le_of_eq (Nat.zero_add _)
  | give loan =>
    unfold awaits
    rw [(world.books_give loan).2]
    exact Nat.le_of_eq (Nat.zero_add _)
  | _ => exact Nat.le_of_eq (Nat.zero_add _)

/-! ## The counters -/

/-- What an act makes of the counters of a pool: an element less, an element more, or
nothing. -/
inductive Turn (world : World σ) (act : Act σ) (name : String) (pool next : ElementPool) : Prop
  | rests (out : countOf name (world.handouts act) = 0) (back : countOf name (world.returns act) = 0)
      (tally : next.tally = pool.tally)
  | gains (out : countOf name (world.handouts act) = 1) (back : countOf name (world.returns act) = 0)
      (tally : next.tally = pool.tally.alloc pool.config pool.elementSize)
  | loses (out : countOf name (world.handouts act) = 0) (back : countOf name (world.returns act) = 1)
      (tally : next.tally = pool.tally.free pool.config)

namespace Turn

variable {pool next : ElementPool}

/-- The live counter follows the books. -/
theorem live {count : Nat} (turn : world.Turn act name pool next)
    (books : count + countOf name (world.returns act) =
      pool.live + countOf name (world.handouts act)) : next.live = count := by
  cases turn with
  | rests out back tally =>
    rw [out, back] at books
    exact (congrArg Tally.live tally).trans books.symm
  | gains out back tally =>
    rw [out, back] at books
    exact ((congrArg Tally.live tally).trans (Tally.live_alloc _ _ _)).trans books.symm
  | loses out back tally =>
    rw [out, back] at books
    refine ((congrArg Tally.live tally).trans (Tally.live_free _ _)).trans ?_
    exact Nat.sub_eq_of_eq_add books.symm

theorem totals (turn : world.Turn act name pool next) (tracked : pool.config.trackStats = true) :
    next.totalAllocs = pool.totalAllocs + countOf name (world.handouts act) ∧
      next.totalFrees = pool.totalFrees + countOf name (world.returns act) := by
  cases turn with
  | rests out back tally =>
    rw [out, back]
    exact ⟨congrArg Tally.totalAllocs tally, congrArg Tally.totalFrees tally⟩
  | gains out back tally =>
    rw [out, back]
    rw [Tally.alloc_tracked tracked] at tally
    exact ⟨congrArg Tally.totalAllocs tally, congrArg Tally.totalFrees tally⟩
  | loses out back tally =>
    rw [out, back]
    rw [Tally.free_tracked tracked] at tally
    exact ⟨congrArg Tally.totalAllocs tally, congrArg Tally.totalFrees tally⟩

/-- The peak is raised to the usage after the act, if it was not below the usage before. -/
theorem peakUsage (turn : world.Turn act name pool next) (tracked : pool.config.trackStats = true)
    (covered : pool.live * pool.elementSize ≤ pool.peakUsage) :
    next.peakUsage = max (next.live * pool.elementSize) pool.peakUsage := by
  -- Only a gain can raise the peak, and then to what is in use after it.
  cases turn with
  | rests out back tally =>
    have kept : next.live = pool.live := congrArg Tally.live tally
    have peak : next.peakUsage = pool.peakUsage := congrArg Tally.peakUsage tally
    rw [peak, kept, Nat.max_eq_right covered]
  | gains out back tally =>
    rw [Tally.alloc_tracked tracked] at tally
    have more : next.live = pool.live + 1 := congrArg Tally.live tally
    rw [more, Nat.max_comm]
    exact congrArg Tally.peakUsage tally
  | loses out back tally =>
    rw [Tally.free_tracked tracked] at tally
    have fewer : next.live = pool.live - 1 := congrArg Tally.live tally
    have peak : next.peakUsage = pool.peakUsage := congrArg Tally.peakUsage tally
    have below := Nat.mul_le_mul_right pool.elementSize (Nat.sub_le pool.live 1)
    rw [peak, fewer, Nat.max_eq_right (Nat.le_trans below covered)]

end Turn

/-! ## One pool -/

/-- What an act makes of a pool that it does not end, with what it hands out and takes back. -/
inductive Treats (world : World σ) (act : Act σ) (name : String) (pool : ElementPool) :
    ElementPool → Prop
  | rests (out : countOf name (world.handouts act) = 0)
      (back : countOf name (world.returns act) = 0) : Treats world act name pool pool
  | setsUp {count : Nat} {setup : Setup} (its : act = .setUp name count)
      (made : pool.init world.allocator.memory world.allocator.system count = .ok setup) :
      Treats world act name pool setup.pool
  | serves {address : Nat} {next : ElementPool} {changed : Memory} (its : act = .request name)
      (out : countOf name (world.handouts act) = 1)
      (attempted : pool.attempt world.allocator.memory = .served address next changed) :
      Treats world act name pool next
  | carves {window : Window} {adopted : Adopted} (its : act = .publish window)
      (member : window ∈ world.windows) (mine : window.pool = name)
      (out : countOf name (world.handouts act) = 1)
      (made : pool.adopt? world.allocator.memory window.region.start = some adopted) :
      Treats world act name pool adopted.pool
  | takesBack {address : Nat} {freed : Freed} (its : act = .release name address)
      (back : countOf name (world.returns act) = 1)
      (taken : pool.free world.allocator.memory address = .ok freed) :
      Treats world act name pool freed.pool

namespace Treats

variable {pool next : ElementPool}

theorem same (treats : world.Treats act name pool next) : pool.Same next := by
  cases treats with
  | rests => exact .refl pool
  | setsUp its made => exact same_init made
  | serves its out attempted => exact same_attempt attempted
  | carves its member mine out made => exact same_adopt? made
  | takesBack its back taken => exact same_free taken

/-- Every element is counted where it is handed out or taken back. -/
theorem turn (treats : world.Treats act name pool next) : world.Turn act name pool next := by
  cases treats with
  | rests out back => exact .rests out back rfl
  | setsUp its made =>
    subst its
    exact .rests rfl rfl (init_counted made).2.1
  | serves its out attempted =>
    subst its
    exact .gains out rfl (attempt_counted attempted).tally
  | carves its member mine out made =>
    subst its
    exact .gains out rfl (adopt?_counted made).tally
  | takesBack its back taken =>
    subst its
    exact .loses rfl back (free_counted taken).tally

end Treats

/-- The pool is there after the act as well. -/
def Lasts (world : World σ) (act : Act σ) (name : String) (tenant : Tenant) : Prop :=
  ∃ next, (world.perform act).allocator.pools.find? name = some { tenant with pool := next } ∧
    world.Treats act name tenant.pool next

/-- A pool that does not move rests if the act is none of its business. -/
theorem Lasts.of_same (found : world.allocator.pools.find? name = some tenant)
    (same : (world.perform act).allocator.pools.find? name = world.allocator.pools.find? name)
    (out : countOf name (world.handouts act) = 0) (back : countOf name (world.returns act) = 0) :
    world.Lasts act name tenant :=
  ⟨tenant.pool, same.trans found, .rests out back⟩

private theorem lasts_other {owner : Tenant} {next : ElementPool}
    (found : world.allocator.pools.find? name = some tenant) (different : name ≠ other)
    (pools : (world.perform act).allocator.pools =
      world.allocator.pools.insert other { owner with pool := next })
    (out : countOf name (world.handouts act) = 0) (back : countOf name (world.returns act) = 0) :
    world.Lasts act name tenant := by
  refine .of_same found ?_ out back
  rw [pools, Table.find?_insert_of_ne _ _ different]

namespace Sound

private theorem lasts_setUp (found : world.allocator.pools.find? name = some tenant)
    (other : String) (count : Nat) : world.Lasts (.setUp other count) name tenant := by
  rcases setUp_cases world other count with idles | ⟨owner, setup, its, made, pools, -⟩
  · exact .of_same found (by rw [idles.pools]) rfl rfl
  · by_cases same : name = other
    · subst same
      obtain rfl : owner = tenant := Option.some.inj (its.symm.trans found)
      exact ⟨setup.pool, by rw [pools, Table.find?_insert_self], .setsUp rfl made⟩
    · exact lasts_other found same pools rfl rfl

private theorem lasts_request (sound : world.Sound)
    (found : world.allocator.pools.find? name = some tenant) (other : String) :
    world.Lasts (.request other) name tenant := by
  cases its : world.allocator.pools.find? other with
  | none =>
    have sought := Allocator.seek_absent its
    refine .of_same found ?_ ?_ rfl
    · rw [perform_request sought]
      rfl
    · rw [handouts_settled sought]
      rfl
  | some owner =>
    obtain ⟨view, shows, -⟩ := sound.shown other owner its
    rcases seek_cases sound.names its shows with ⟨fault, after, sought, -, pools⟩ |
      ⟨block, after, sought, -, pools⟩ |
      ⟨address, next, changed, after, arranged, piece, fresh, sought, -, pools, -⟩
    · refine .of_same found ?_ ?_ rfl
      · rw [perform_request sought]
        exact congrArg (fun pools => pools.find? name) pools
      · rw [handouts_settled sought]
        rfl
    · refine .of_same found ?_ ?_ rfl
      · rw [perform_awaiting sought]
        exact congrArg (fun pools => pools.find? name) pools
      · rw [handouts_awaiting sought]
        rfl
    · have moved : (world.perform (.request other)).allocator.pools =
          world.allocator.pools.insert other { owner with pool := next } := by
        rw [perform_request sought]
        exact pools
      have out := countOf_single other name address
      -- The pool that serves moves on; every other one is found as it was.
      by_cases same : name = other
      · subst same
        obtain rfl : owner = tenant := Option.some.inj (its.symm.trans found)
        have left : after.pools.find? name = some { owner with pool := next } := by
          rw [pools, Table.find?_insert_self]
        refine ⟨next, by rw [moved, Table.find?_insert_self], .serves rfl ?_
          (Allocator.attempt_of_seek found sought left)⟩
        rw [handouts_settled sought]
        exact out.trans (if_pos rfl)
      · refine lasts_other found same moved ?_ rfl
        rw [handouts_settled sought]
        exact out.trans (if_neg (Ne.symm same))

private theorem lasts_publish (sound : world.Sound)
    (found : world.allocator.pools.find? name = some tenant) {window : Window}
    (member : window ∈ world.windows) : world.Lasts (.publish window) name tenant := by
  obtain ⟨owner, its, -⟩ := sound.awaited window member
  obtain ⟨view, shows, -⟩ := sound.shown window.pool owner its
  rcases sound.publish_cases member its shows with ⟨-, fault, after, published, -, pools⟩ |
    ⟨adopted, arranged, after, made, published, -, pools, -⟩
  · refine .of_same found ?_ ?_ rfl
    · rw [perform_publish world window published]
      exact congrArg (fun pools => pools.find? name) pools
    · unfold handouts
      simp only [published]
      rfl
  · have moved : (world.perform (.publish window)).allocator.pools =
        world.allocator.pools.insert window.pool { owner with pool := adopted.pool } := by
      rw [perform_publish world window published]
      exact pools
    have out : countOf name (world.handouts (.publish window)) =
        if window.pool = name then 1 else 0 := by
      unfold handouts
      simp only [published]
      exact countOf_single _ _ _
    by_cases same : name = window.pool
    · subst same
      obtain rfl : owner = tenant := Option.some.inj (its.symm.trans found)
      exact ⟨adopted.pool, by rw [moved, Table.find?_insert_self],
        .carves rfl member rfl (out.trans (if_pos rfl)) made⟩
    · exact lasts_other found same moved (out.trans (if_neg (Ne.symm same))) rfl

private theorem lasts_release (sound : world.Sound)
    (found : world.allocator.pools.find? name = some tenant)
    (obeys : world.Obeys (.release other address)) :
    world.Lasts (.release other address) name tenant := by
  by_cases accepted : world.accepts other address = true
  · obtain ⟨owner, freed, its, taken⟩ := of_accepts accepted
    obtain ⟨pools, -⟩ := sound.release_taken obeys its taken
    have back : countOf name (world.returns (.release other address)) =
        if other = name then 1 else 0 := by
      rw [returns_accepted accepted]
      exact countOf_single _ _ _
    by_cases same : name = other
    · subst same
      obtain rfl : owner = tenant := Option.some.inj (its.symm.trans found)
      exact ⟨freed.pool, by rw [pools, Table.find?_insert_self],
        .takesBack rfl (back.trans (if_pos rfl)) taken⟩
    · exact lasts_other found same pools rfl (back.trans (if_neg (Ne.symm same)))
  · refine .of_same found ?_ rfl (congrArg (countOf name) (returns_refused accepted))
    rcases sound.release_cases obeys with idles | ⟨owner, freed, its, taken, -⟩
    · rw [idles.pools]
    · refine absurd ?_ accepted
      unfold accepts pool?
      rw [its]
      simp only [Option.map_some, taken]

/-- **A pool moves in one of five ways** under an act that does not end it. -/
theorem lasts (sound : world.Sound) (honest : world.Honest act)
    (found : world.allocator.pools.find? name = some tenant) (lasting : act ≠ .drop name) :
    world.Lasts act name tenant := by
  obtain ⟨-, obeys⟩ := honest
  cases act with
  | create other source blockSize elementSize config =>
    refine .of_same found (Table.find?_insert_of_ne _ _ ?_) rfl rfl
    rintro rfl
    exact obeys (Table.mem_names found)
  | setUp other count => exact lasts_setUp found other count
  | request other => exact sound.lasts_request found other
  | publish window => exact sound.lasts_publish found obeys
  | release other address => exact sound.lasts_release found obeys
  | write => exact .of_same found rfl rfl rfl
  | take source =>
    refine .of_same found ?_ rfl rfl
    rw [allocator_take, (world.allocator.takeBlock_same source).2]
  | give loan =>
    refine .of_same found ?_ rfl rfl
    rw [allocator_give, (world.allocator.giveBlock_same loan.source loan.region.start).2]
  | drop other =>
    refine .of_same found ?_ rfl rfl
    show (world.allocator.dropPool other).pools.find? name = _
    rw [world.allocator.dropPool_pools other, Table.find?_erase_of_ne]
    rintro rfl
    exact lasting rfl
  | outside => exact .of_same found rfl rfl rfl

end Sound

end World

end SlabAllocator
