import SlabAllocator.Proofs.Allocator.Exclusive
import SlabAllocator.Proofs.Allocator.Ledger
import SlabAllocator.Proofs.ElementPool.Likeness

/-! Two runs of the same acts on the same sources and the same system, in memories that have
nothing to do with each other. The invariant is that the worlds are twins: each pool of one
is arranged as the pool of that name in the other. The link words the pools read are among
what the arrangement says, so whatever owners write never reaches a decision. -/
namespace SlabAllocator

open ElementPool

variable {σ : Type}

/-- The same act, but for the options of a pool that is made and for what is written. -/
inductive Act.Alike : Act σ → Act σ → Prop
  | create (name source : String) (blockSize elementSize : Nat) (config other : Config) :
    Alike (.create name source blockSize elementSize config)
      (.create name source blockSize elementSize other)
  | setUp (name : String) (count : Nat) : Alike (.setUp name count) (.setUp name count)
  | request (name : String) : Alike (.request name) (.request name)
  | publish (window : Window) : Alike (.publish window) (.publish window)
  | release (name : String) (address : Nat) : Alike (.release name address) (.release name address)
  | write (start length : Nat) (content : Nat → UInt8) (place size : Nat) (data : Nat → UInt8) :
    Alike (.write start length content) (.write place size data)
  | take (source : String) : Alike (.take source) (.take source)
  | give (loan : Loan) : Alike (.give loan) (.give loan)
  | drop (name : String) : Alike (.drop name) (.drop name)
  | outside {first second : Allocator σ} (same : first.SameSupply second) :
    Alike (.outside first) (.outside second)

/-- What whoever acts is told. -/
inductive Answer
  | silence
  | done (outcome : Except Fault Unit)
  | handed (outcome : Except Fault Nat)
  | begun (progress : Allocator.Progress)

namespace World

/-- Two worlds look the same to whoever looks at neither elements nor totals. -/
structure Indistinct (one other : World σ) : Prop where
  supply : one.allocator.SameSupply other.allocator
  live : one.live = other.live
  windows : one.windows = other.windows
  lent : one.lent = other.lent
  names : one.allocator.pools.names = other.allocator.pools.names
  pools : ∀ name tenant, one.allocator.pools.find? name = some tenant → ∃ twin,
    other.allocator.pools.find? name = some twin ∧ tenant.source = twin.source ∧
      tenant.pool.Indistinct one.allocator.memory twin.pool other.allocator.memory

/-- Two worlds with the same supply and the same books whose pools are arranged alike. -/
structure Twin (one other : World σ) : Prop where
  supply : one.allocator.SameSupply other.allocator
  live : one.live = other.live
  windows : one.windows = other.windows
  lent : one.lent = other.lent
  names : one.allocator.pools.names = other.allocator.pools.names
  pools : ∀ name tenant, one.allocator.pools.find? name = some tenant → ∃ twin view,
    other.allocator.pools.find? name = some twin ∧ tenant.source = twin.source ∧
      Mirrors view tenant.pool one.allocator.memory twin.pool other.allocator.memory

variable {one other after afterToo : World σ} {name source : String} {tenant twin : Tenant}
  {view arranged : View} {next nextToo : ElementPool}

theorem Twin.indistinct (twins : one.Twin other) : one.Indistinct other := by
  obtain ⟨supply, live, windows, lent, names, pools⟩ := twins
  refine ⟨supply, live, windows, lent, names, fun name tenant found => ?_⟩
  obtain ⟨twin, view, foundToo, source, mirrors⟩ := pools name tenant found
  exact ⟨twin, foundToo, source, mirrors.indistinct⟩

theorem Twin.absent (twins : one.Twin other) (absent : one.allocator.pools.find? name = none) :
    other.allocator.pools.find? name = none := by
  rw [Table.find?_eq_none_iff] at absent ⊢
  rwa [← twins.names]

/-- A world in which no pool moved and all slabs are as they were. -/
structure Still (world after : World σ) : Prop where
  pools : after.allocator.pools = world.allocator.pools
  frame : ∀ name tenant view, world.allocator.pools.find? name = some tenant →
    tenant.pool.Shows world.allocator.memory view → tenant.pool.Shows after.allocator.memory view

theorem Still.of_eq {world after : World σ}
    (kept : after.allocator.memory = world.allocator.memory ∧
      after.allocator.pools = world.allocator.pools) : world.Still after :=
  ⟨kept.2, fun _ _ _ _ shows => shows.of_agree fun region _ => .of_eq kept.1 region⟩

/-- Whoever may write leaves alone what slabs keep for themselves. -/
theorem Sound.write_still {world : World σ} (sound : world.Sound) {start length : Nat}
    {content : Nat → UInt8} (writable : world.Writable ⟨start, length⟩) :
    world.Still { world with allocator := { world.allocator with
      memory := world.allocator.memory.paint start length content } } := by
  have written := Memory.changedWithin_paint world.allocator.memory start length content
  refine ⟨rfl, fun name tenant view found shows => ?_⟩
  have spared : ∀ piece ∈ view.pieces,
      ∀ region ∈ Slab.reserved world.allocator.memory piece.base,
        (⟨start, length⟩ : Region).Apart region := by
    intro piece member region kept
    have known := Table.mem_of_find? found
    have held := shows.base_of_piece member
    -- A caller writes to its own element or outside all slabs; what a slab reserves is neither.
    rcases writable with ⟨element, live, within⟩ | apart
    · exact ((sound.exclusive live).reserved _ known _ held region kept).of_within within
    · obtain ⟨slab, mine, -, inside⟩ := sound.reserved_within known held kept
      exact (apart slab mine).within ⟨Nat.le_refl _, Nat.le_refl _⟩ inside
  exact shows.of_reserved fun piece member region kept =>
    written.agree (spared piece member region kept)

/-- Twins in which nothing moved remain twins. -/
theorem Twin.still (twins : one.Twin other) (still : one.Still after) (stillToo : other.Still afterToo)
    (supply : after.allocator.SameSupply afterToo.allocator) (live : after.live = afterToo.live)
    (windows : after.windows = afterToo.windows) (lent : after.lent = afterToo.lent) :
    after.Twin afterToo := by
  refine ⟨supply, live, windows, lent, ?_, fun name tenant found => ?_⟩
  · rw [still.pools, stillToo.pools]
    exact twins.names
  · rw [still.pools] at found
    obtain ⟨twin, view, foundToo, source, mirrors⟩ := twins.pools name tenant found
    refine ⟨twin, view, by rw [stillToo.pools, foundToo], source, ?_⟩
    exact { mirrors with
      shows := still.frame name tenant view found mirrors.shows
      showsToo := stillToo.frame name twin view foundToo mirrors.showsToo }

/-- Twins in which the same pool moved on alike remain twins. -/
theorem Twin.advance (twins : one.Twin other) (sound : one.Sound) (soundToo : other.Sound)
    (advances : Sound.Advances one after.allocator name tenant next arranged)
    (advancesToo : Sound.Advances other afterToo.allocator name twin nextToo arranged)
    (source : tenant.source = twin.source)
    (mirrors : Mirrors arranged next after.allocator.memory nextToo afterToo.allocator.memory)
    (supply : after.allocator.SameSupply afterToo.allocator) (live : after.live = afterToo.live)
    (windows : after.windows = afterToo.windows) (lent : after.lent = afterToo.lent) :
    after.Twin afterToo := by
  refine ⟨supply, live, windows, lent, ?_, fun pool owner held => ?_⟩
  · rw [advances.pools, advancesToo.pools, Table.names_insert sound.names advances.found,
      Table.names_insert soundToo.names advancesToo.found]
    exact twins.names
  · rw [advances.pools] at held
    rw [advancesToo.pools]
    -- Both sides advance to one arrangement, and neither touches another pool.
    by_cases same : pool = name
    · subst same
      rw [Table.find?_insert_self] at held ⊢
      cases held
      exact ⟨_, arranged, rfl, source, mirrors⟩
    · rw [Table.find?_insert_of_ne _ _ same] at held ⊢
      obtain ⟨its, view, heldToo, source, mirrors⟩ := twins.pools pool owner held
      exact ⟨its, view, heldToo, source, { mirrors with
        shows := advances.bystander held same mirrors.shows
        showsToo := advancesToo.bystander heldToo same mirrors.showsToo }⟩

/-! ## One act -/

variable [BlockSource σ]

/-- What whoever acts is told. -/
def answer (world : World σ) : Act σ → Answer
  | .setUp name count => .done (world.allocator.initPool name count).1
  | .request name => .begun (world.allocator.seek name).1
  | .publish window => .handed (world.allocator.publish window.pool window.region.start).1
  | .release name address => .done (world.allocator.free name address).1
  | .take source => .handed (world.allocator.takeBlock source).1
  | .give loan => .done (world.allocator.giveBlock loan.source loan.region.start).1
  | .create .. | .write .. | .drop _ | .outside _ => .silence

/-- Asked for a block, sources that are in the same state answer the same. -/
private theorem take_alike {left right : Allocator σ} (supply : left.SameSupply right)
    (source : String) : ∃ outcome after afterToo, left.takeBlock source = (outcome, after) ∧
      right.takeBlock source = (outcome, afterToo) ∧ after.SameSupply afterToo ∧
      (after.memory = left.memory ∧ after.pools = left.pools) ∧
      afterToo.memory = right.memory ∧ afterToo.pools = right.pools := by
  obtain ⟨same, supply⟩ := Allocator.takeBlock_congr supply source
  refine ⟨(left.takeBlock source).1, (left.takeBlock source).2, (right.takeBlock source).2, rfl, ?_,
    supply, left.takeBlock_same source, right.takeBlock_same source⟩
  rw [same]

/-- Offered a block, sources that are in the same state answer the same. -/
private theorem give_alike {left right : Allocator σ} (supply : left.SameSupply right)
    (source : String) (block : Nat) : ∃ outcome after afterToo,
      left.giveBlock source block = (outcome, after) ∧
      right.giveBlock source block = (outcome, afterToo) ∧ after.SameSupply afterToo ∧
      (after.memory = left.memory ∧ after.pools = left.pools) ∧
      afterToo.memory = right.memory ∧ afterToo.pools = right.pools := by
  obtain ⟨same, supply⟩ := Allocator.giveBlock_congr supply source block
  refine ⟨(left.giveBlock source block).1, (left.giveBlock source block).2,
    (right.giveBlock source block).2, rfl, ?_, supply, left.giveBlock_same source block,
    right.giveBlock_same source block⟩
  rw [same]

/-- Acts in two worlds are answered alike and leave twins. -/
structure Concurs (one other : World σ) (act also : Act σ) : Prop where
  answers : one.answer act = other.answer also
  twins : (one.perform act).Twin (other.perform also)

namespace Twin

variable {act also : Act σ} {left right : Allocator σ}

omit [BlockSource σ] in
/-- Twins that note the same down remain twins. -/
private theorem note (twins : one.Twin other) (events : List Event) :
    Twin { one with allocator := one.allocator.note events }
      { other with allocator := other.allocator.note events } :=
  twins.still (.of_eq ⟨rfl, rfl⟩) (.of_eq ⟨rfl, rfl⟩) (twins.supply.note _ _) twins.live
    twins.windows twins.lent

/-- Requests that are answered alike. -/
private theorem settled {outcome : Except Fault Nat}
    (sought : one.allocator.seek name = (.settled outcome, left))
    (soughtToo : other.allocator.seek name = (.settled outcome, right))
    (twins : Twin { one with allocator := left, live := one.live ++ entries name outcome }
      { other with allocator := right, live := other.live ++ entries name outcome }) :
    one.Concurs other (.request name) (.request name) := by
  constructor
  · simp only [answer, sought, soughtToo]
  · rw [perform_request sought, perform_request soughtToo]
    exact twins

theorem request (twins : one.Twin other) (sound : one.Sound) (soundToo : other.Sound)
    (name : String) : one.Concurs other (.request name) (.request name) := by
  have told (outcome : Except Fault Nat) := congrArg (· ++ entries name outcome) twins.live
  cases found : one.allocator.pools.find? name with
  | none =>
    refine settled (Allocator.seek_absent found) (Allocator.seek_absent (twins.absent found)) ?_
    exact twins.still (.of_eq ⟨rfl, rfl⟩) (.of_eq ⟨rfl, rfl⟩) (twins.supply.note _ _)
      (told _) twins.windows twins.lent
  | some tenant =>
    obtain ⟨twin, view, foundToo, source, mirrors⟩ := twins.pools name tenant found
    cases ready : tenant.pool.ready with
    | false =>
      have readyToo := mirrors.ready.symm.trans ready
      refine settled (Allocator.seek_unready found ready) (Allocator.seek_unready foundToo readyToo) ?_
      exact twins.still (.of_eq ⟨rfl, rfl⟩) (.of_eq ⟨rfl, rfl⟩) (twins.supply.note _ _)
        (told _) twins.windows twins.lent
    | true =>
      have readyToo := mirrors.ready.symm.trans ready
      -- The two pools show one view, and it is the view that decides.
      cases served : view.attempt with
      | some result =>
        obtain ⟨address, arranged⟩ := result
        obtain ⟨next, changed, piece, fresh, attempted, sought, placed, shown, within⟩ :=
          Sound.seek_arranged found mirrors.shows ready served
        obtain ⟨nextToo, changedToo, pieceToo, freshToo, attemptedToo, soughtToo, placedToo,
          shownToo, withinToo⟩ := Sound.seek_arranged foundToo mirrors.showsToo readyToo served
        have counted := attempt_counted attempted
        have countedToo := attempt_counted attemptedToo
        refine settled sought soughtToo ?_
        refine twins.advance sound soundToo
          (.of_within sound found mirrors.shows rfl shown counted.same.blockSize
            (mirrors.shows.region_of_piece placed.mem) within)
          (.of_within soundToo foundToo mirrors.showsToo rfl shownToo countedToo.same.blockSize
            (mirrors.showsToo.region_of_piece placedToo.mem) withinToo) source
          (mirrors.advance shown shownToo counted countedToo mirrors.live_alloc
            mirrors.carvedBytes) ?_ (told _) twins.windows twins.lent
        exact ⟨twins.supply.sources, twins.supply.system, twins.supply.interludes⟩
      | none =>
        have sought := Sound.seek_drained sound.names found mirrors.shows ready served
        have soughtToo :=
          Sound.seek_drained soundToo.names foundToo mirrors.showsToo readyToo served
        rw [← source] at soughtToo
        obtain ⟨outcome, after, afterToo, took, tookToo, supply, kept, keptToo⟩ :=
          take_alike twins.supply tenant.source
        rw [took] at sought
        rw [tookToo] at soughtToo
        cases outcome with
        | error fault =>
          refine settled sought soughtToo ?_
          exact twins.still (.of_eq kept) (.of_eq keptToo) supply (told _) twins.windows twins.lent
        | ok block =>
          constructor
          · simp only [answer, sought, soughtToo]
          · simp only [World.perform, sought, soughtToo]
            refine twins.still (.of_eq kept) (.of_eq keptToo) supply twins.live ?_ twins.lent
            simp only [pool?, found, foundToo, Option.map_some, Option.getD_some,
              mirrors.blockSize, twins.windows]

/-- Blocks that end up alike. -/
private theorem published {window : Window} {outcome : Except Fault Nat}
    (answered : one.allocator.publish window.pool window.region.start = (outcome, left))
    (answeredToo : other.allocator.publish window.pool window.region.start = (outcome, right))
    (twins : Twin
      { one with
        allocator := left
        live := one.live ++ entries window.pool outcome
        windows := one.windows.erase window }
      { other with
        allocator := right
        live := other.live ++ entries window.pool outcome
        windows := other.windows.erase window }) :
    one.Concurs other (.publish window) (.publish window) := by
  constructor
  · simp only [answer, answered, answeredToo]
  · rw [perform_publish one window answered, perform_publish other window answeredToo]
    exact twins

theorem publish (twins : one.Twin other) (sound : one.Sound) (soundToo : other.Sound)
    {window : Window} (member : window ∈ one.windows) :
    one.Concurs other (.publish window) (.publish window) := by
  have told (outcome : Except Fault Nat) := congrArg (· ++ entries window.pool outcome) twins.live
  have closed := congrArg (List.erase · window) twins.windows
  have memberToo : window ∈ other.windows := by rwa [← twins.windows]
  obtain ⟨tenant, found, -⟩ := sound.awaited window member
  obtain ⟨twin, view, foundToo, source, mirrors⟩ := twins.pools window.pool tenant found
  -- Whether a block can be carved is a matter of sizes, which twins share.
  by_cases usable : (view.blank window.region.start).shape.Usable
  · obtain ⟨adopted, arranged, made, answered, placed, shown, within, -⟩ :=
      sound.publish_fit member found mirrors.shows usable
    obtain ⟨adoptedToo, arrangedToo, madeToo, answeredToo, placedToo, shownToo, withinToo, -⟩ :=
      soundToo.publish_fit memberToo foundToo mirrors.showsToo usable
    obtain ⟨same, rfl⟩ := Prod.mk.inj (Option.some.inj (placed.symm.trans placedToo))
    rw [← same] at answeredToo
    have counted := adopt?_counted made
    have countedToo := adopt?_counted madeToo
    have carved : tenant.pool.carvedBytes + tenant.pool.blockSize =
        twin.pool.carvedBytes + twin.pool.blockSize := by
      rw [mirrors.carvedBytes, mirrors.blockSize]
    refine published answered answeredToo ?_
    refine twins.advance sound soundToo
      (.of_carved sound member found mirrors.shows rfl shown counted.same.blockSize within)
      (.of_carved soundToo memberToo foundToo mirrors.showsToo rfl shownToo
        countedToo.same.blockSize withinToo) source
      (mirrors.advance shown shownToo counted countedToo mirrors.live_alloc carved) ?_ (told _)
      closed twins.lent
    exact ⟨twins.supply.sources, twins.supply.system, twins.supply.interludes⟩
  · have answered := Allocator.publish_unfit found (sound.publish_unfit member found mirrors.shows usable)
    have answeredToo :=
      Allocator.publish_unfit foundToo (soundToo.publish_unfit memberToo foundToo mirrors.showsToo usable)
    rw [← source, ← mirrors.unfitBlock] at answeredToo
    obtain ⟨outcome, after, afterToo, gave, gaveToo, supply, kept, keptToo⟩ :=
      give_alike twins.supply tenant.source window.region.start
    rw [gave] at answered
    rw [gaveToo] at answeredToo
    cases outcome with
    | error fault =>
      refine published answered answeredToo ?_
      exact twins.still (.of_eq kept) (.of_eq keptToo) supply (told _) closed twins.lent
    | ok _ =>
      refine published answered answeredToo ?_
      exact twins.still (.of_eq kept) (.of_eq keptToo) (supply.note _ _) (told _) closed twins.lent

/-- Pools that let go of their elements alike give the blocks of their slabs back alike. -/
private theorem free_alike {left right : Allocator σ} {address : Nat} {freed freedToo : Freed}
    (supply : left.SameSupply right) (found : left.pools.find? name = some tenant)
    (foundToo : right.pools.find? name = some twin) (source : tenant.source = twin.source)
    (taken : tenant.pool.free left.memory address = .ok freed)
    (takenToo : twin.pool.free right.memory address = .ok freedToo)
    (retired : freed.retired = freedToo.retired) :
    (left.free name address).1 = (right.free name address).1 ∧
      (left.free name address).2.SameSupply (right.free name address).2 := by
  cases gone : freed.retired with
  | none =>
    rw [Allocator.free_kept found taken gone,
      Allocator.free_kept foundToo takenToo (retired.symm.trans gone)]
    exact ⟨rfl, supply.sources, supply.system, supply.interludes⟩
  | some base =>
    -- Twins retire the same block, and their sources answer alike.
    have moved :
        (left.letGo name tenant freed).SameSupply (right.letGo name twin freedToo) :=
      ⟨supply.sources, supply.system, supply.interludes⟩
    obtain ⟨outcome, after, afterToo, gave, gaveToo, supply, -⟩ :=
      give_alike moved tenant.source base
    rw [Allocator.free_emptied found taken gone,
      Allocator.free_emptied foundToo takenToo (retired.symm.trans gone), ← source]
    simp only [gave, gaveToo]
    cases outcome with
    | error fault => exact ⟨rfl, supply⟩
    | ok _ => exact ⟨rfl, supply.note _ _⟩

/-- An element both worlds take back. -/
private theorem taken_back {address : Nat} {gone : Option Nat} (twins : one.Twin other)
    (sound : one.Sound) (soundToo : other.Sound)
    (found : one.allocator.pools.find? name = some tenant)
    (foundToo : other.allocator.pools.find? name = some twin) (source : tenant.source = twin.source)
    (mirrors : Mirrors view tenant.pool one.allocator.memory twin.pool other.allocator.memory)
    (visible : ¬ view.Hidden address) (freed : view.free address = .ok (gone, arranged)) :
    one.Concurs other (.release name address) (.release name address) := by
  obtain ⟨piece, fresh, result, returned, taken, retired, shown, within⟩ :=
    mirrors.shows.free_ok visible freed
  obtain ⟨pieceToo, freshToo, resultToo, returnedToo, takenToo, retiredToo, shownToo,
    withinToo⟩ := mirrors.showsToo.free_ok visible freed
  obtain ⟨memory, pools⟩ := Sound.free_moved found taken
  obtain ⟨memoryToo, poolsToo⟩ := Sound.free_moved foundToo takenToo
  obtain ⟨same, supply⟩ := free_alike twins.supply found foundToo source taken takenToo
    (retired.trans retiredToo.symm)
  have counted := free_counted taken
  have countedToo := free_counted takenToo
  rw [retired] at counted
  rw [retiredToo] at countedToo
  rw [← memory] at shown within
  rw [← memoryToo] at shownToo withinToo
  have carved : (if gone.isSome then tenant.pool.carvedBytes - tenant.pool.blockSize
      else tenant.pool.carvedBytes) =
        if gone.isSome then twin.pool.carvedBytes - twin.pool.blockSize
          else twin.pool.carvedBytes := by
    rw [mirrors.carvedBytes, mirrors.blockSize]
  constructor
  · exact congrArg Answer.done same
  · simp only [World.perform, accepts, pool?, found, foundToo, Option.map_some, taken,
      takenToo, ↓reduceIte]
    exact twins.advance sound soundToo
      (.of_within sound found mirrors.shows pools shown counted.same.blockSize
        (mirrors.shows.region_of_piece returned.mem) within)
      (.of_within soundToo foundToo mirrors.showsToo poolsToo shownToo countedToo.same.blockSize
        (mirrors.showsToo.region_of_piece returnedToo.mem) withinToo) source
      (mirrors.advance shown shownToo counted countedToo mirrors.live_free carved)
      supply (congrArg (List.erase · _) twins.live) twins.windows twins.lent

theorem release (twins : one.Twin other) (sound : one.Sound) (soundToo : other.Sound)
    {address : Nat} (obeys : one.Obeys (.release name address)) :
    one.Concurs other (.release name address) (.release name address) := by
  cases found : one.allocator.pools.find? name with
  | none =>
    have foundToo := twins.absent found
    constructor
    · simp only [answer, Allocator.free_absent address found,
        Allocator.free_absent address foundToo]
    · simp only [World.perform, Allocator.free_absent address found,
        Allocator.free_absent address foundToo, accepts, pool?, found, foundToo, Option.map_none,
        Bool.false_eq_true, ↓reduceIte]
      exact twins.note _
  | some tenant =>
    obtain ⟨twin, view, foundToo, source, mirrors⟩ := twins.pools name tenant found
    simp only [Obeys, pool?, found, Option.map_some, Option.mem_def, Option.some.injEq,
      forall_eq'] at obeys
    have visible := mirrors.shows.not_hidden obeys
    cases freed : view.free address with
    | error fault =>
      have refused := mirrors.shows.free_error visible freed
      have refusedToo := mirrors.showsToo.free_error visible freed
      constructor
      · simp only [answer, Allocator.free_rejected found refused,
          Allocator.free_rejected foundToo refusedToo]
      · simp only [World.perform, Allocator.free_rejected found refused,
          Allocator.free_rejected foundToo refusedToo, accepts, pool?, found, foundToo,
          Option.map_some, refused, refusedToo, Bool.false_eq_true, ↓reduceIte]
        exact twins.note _
    | ok outcome => exact taken_back twins sound soundToo found foundToo source mirrors visible freed

/-- A pool both worlds set up, with the same resident slab. -/
private theorem fitted_out {count : Nat} {setup setupToo : Setup} (twins : one.Twin other)
    (sound : one.Sound) (soundToo : other.Sound)
    (found : one.allocator.pools.find? name = some tenant)
    (foundToo : other.allocator.pools.find? name = some twin) (source : tenant.source = twin.source)
    (mirrors : Mirrors view tenant.pool one.allocator.memory twin.pool other.allocator.memory)
    (fresh : ∀ region ∈ one.granted (.setUp name count), one.Fresh region)
    (freshToo : ∀ region ∈ other.granted (.setUp name count), other.Fresh region)
    (made : tenant.pool.init one.allocator.memory one.allocator.system count = .ok setup)
    (madeToo : twin.pool.init other.allocator.memory other.allocator.system count = .ok setupToo)
    (resident : setup.pool.resident = setupToo.pool.resident)
    (system : setup.system = setupToo.system) :
    one.Concurs other (.setUp name count) (.setUp name count) := by
  obtain ⟨-, advances, -⟩ := Sound.init_advances fresh found mirrors.shows made
  obtain ⟨-, advancesToo, -⟩ := Sound.init_advances freshToo foundToo mirrors.showsToo madeToo
  rw [← resident] at advancesToo
  obtain ⟨ready, tally, carved⟩ := init_counted made
  obtain ⟨readyToo, tallyToo, carvedToo⟩ := init_counted madeToo
  have counted : setup.pool.live = setupToo.pool.live :=
    ((congrArg Tally.live tally).trans mirrors.live).trans (congrArg Tally.live tallyToo).symm
  constructor
  · simp only [answer, Allocator.initPool_made found made,
      Allocator.initPool_made foundToo madeToo]
  · simp only [World.perform, Allocator.initPool_made found made,
      Allocator.initPool_made foundToo madeToo]
    refine twins.advance sound soundToo
      ⟨found, rfl, advances.shown, advances.frame, advances.size⟩
      ⟨foundToo, rfl, advancesToo.shown, advancesToo.frame, advancesToo.size⟩ source
      ⟨advances.shown, advancesToo.shown, ready.trans readyToo.symm, counted,
        (carved.trans mirrors.carvedBytes).trans carvedToo.symm⟩
      ⟨twins.supply.sources, system, twins.supply.interludes⟩ twins.live twins.windows
      twins.lent

theorem setUp (twins : one.Twin other) (sound : one.Sound) (soundToo : other.Sound) {count : Nat}
    (fresh : ∀ region ∈ one.granted (.setUp name count), one.Fresh region)
    (freshToo : ∀ region ∈ other.granted (.setUp name count), other.Fresh region) :
    one.Concurs other (.setUp name count) (.setUp name count) := by
  cases found : one.allocator.pools.find? name with
  | none =>
    have foundToo := twins.absent found
    constructor
    · simp only [answer, Allocator.initPool_absent count found,
        Allocator.initPool_absent count foundToo]
    · simp only [World.perform, Allocator.initPool_absent count found,
        Allocator.initPool_absent count foundToo]
      exact twins.note _
  | some tenant =>
    obtain ⟨twin, view, foundToo, source, mirrors⟩ := twins.pools name tenant found
    have alike := mirrors.init one.allocator.system count
    -- Setting up asks one system for one layout, so both are refused or neither is.
    cases made : tenant.pool.init one.allocator.memory one.allocator.system count with
    | error fault =>
      cases madeToo : twin.pool.init other.allocator.memory other.allocator.system count with
      | ok setupToo =>
        rw [made, twins.supply.system, madeToo] at alike
        cases alike
      | error faultToo =>
        rw [made, twins.supply.system, madeToo] at alike
        obtain rfl : fault = faultToo := Except.error.inj alike
        constructor
        · simp only [answer, Allocator.initPool_refused found made,
            Allocator.initPool_refused foundToo madeToo]
        · simp only [World.perform, Allocator.initPool_refused found made,
            Allocator.initPool_refused foundToo madeToo]
          exact twins.note _
    | ok setup =>
      cases madeToo : twin.pool.init other.allocator.memory other.allocator.system count with
      | error faultToo =>
        rw [made, twins.supply.system, madeToo] at alike
        cases alike
      | ok setupToo =>
        rw [made, twins.supply.system, madeToo] at alike
        obtain ⟨resident, system⟩ := Prod.mk.inj (Except.ok.inj alike)
        exact fitted_out twins sound soundToo found foundToo source mirrors fresh freshToo made
          madeToo resident system

private theorem drop_alike (twins : one.Twin other) (name : String) :
    (one.allocator.dropPool name).SameSupply (other.allocator.dropPool name) := by
  cases found : one.allocator.pools.find? name with
  | none =>
    rw [Allocator.dropPool_absent found, Allocator.dropPool_absent (twins.absent found)]
    exact twins.supply
  | some tenant =>
    obtain ⟨twin, view, foundToo, source, mirrors⟩ := twins.pools name tenant found
    obtain ⟨sources, system⟩ := Allocator.dropPool_supply found
    obtain ⟨sourcesToo, systemToo⟩ := Allocator.dropPool_supply foundToo
    rw [← source, ← mirrors.slabs] at sourcesToo systemToo
    rw [← mirrors.resident] at systemToo
    have offered := (Allocator.offerAll_congr twins.supply tenant.source
      (tenant.pool.slabs one.allocator.memory)).2
    refine ⟨(sources.trans offered.sources).trans sourcesToo.symm, ?_, ?_⟩
    · rw [system, systemToo, offered.system]
    · rw [Allocator.dropPool_interludes, Allocator.dropPool_interludes]
      exact twins.supply.interludes

theorem drop (twins : one.Twin other) (sound : one.Sound) (soundToo : other.Sound) (name : String) :
    one.Concurs other (.drop name) (.drop name) := by
  have pools := one.allocator.dropPool_pools name
  have poolsToo := other.allocator.dropPool_pools name
  refine ⟨rfl, drop_alike twins name, congrArg (List.filter _) twins.live, twins.windows,
    twins.lent, ?_, fun pool tenant held => ?_⟩
  · show (one.allocator.dropPool name).pools.names = (other.allocator.dropPool name).pools.names
    rw [pools, poolsToo, Table.names_erase, Table.names_erase, twins.names]
  · have held : (one.allocator.dropPool name).pools.find? pool = some tenant := held
    have different : pool ≠ name := by
      rintro rfl
      rw [pools, Table.find?_erase_self] at held
      cases held
    rw [pools, Table.find?_erase_of_ne _ different] at held
    obtain ⟨twin, view, heldToo, source, mirrors⟩ := twins.pools pool tenant held
    refine ⟨twin, view, ?_, source, { mirrors with
      shows := sound.drop_bystander held different mirrors.shows
      showsToo := soundToo.drop_bystander heldToo different mirrors.showsToo }⟩
    show (other.allocator.dropPool name).pools.find? pool = some twin
    rw [poolsToo, Table.find?_erase_of_ne _ different, heldToo]

theorem create (twins : one.Twin other) {blockSize elementSize : Nat} {config configToo : Config}
    (absent : name ∉ one.allocator.pools.names) :
    one.Concurs other (.create name source blockSize elementSize config)
      (.create name source blockSize elementSize configToo) := by
  have absentToo : name ∉ other.allocator.pools.names := by rwa [← twins.names]
  refine ⟨rfl, ⟨twins.supply.sources, twins.supply.system, twins.supply.interludes⟩, twins.live,
    twins.windows, twins.lent, ?_, fun pool tenant held => ?_⟩
  · show (one.allocator.pools.insert name _).names = (other.allocator.pools.insert name _).names
    rw [Table.names_insert_absent absent, Table.names_insert_absent absentToo, twins.names]
  · have held : (one.allocator.pools.insert name ⟨.new blockSize elementSize config,
      source⟩).find? pool = some tenant := held
    show ∃ twin view, (other.allocator.pools.insert name ⟨.new blockSize elementSize configToo,
      source⟩).find? pool = some twin ∧ _
    by_cases same : pool = name
    · subst same
      rw [Table.find?_insert_self] at held ⊢
      cases held
      exact ⟨_, _, rfl, rfl, shows_new .., shows_new .., rfl, rfl, rfl⟩
    · rw [Table.find?_insert_of_ne _ _ same] at held ⊢
      exact twins.pools pool tenant held

theorem take (twins : one.Twin other) (source : String) :
    one.Concurs other (.take source) (.take source) := by
  obtain ⟨outcome, after, afterToo, took, tookToo, supply, kept, keptToo⟩ :=
    take_alike twins.supply source
  constructor
  · simp only [answer, took, tookToo]
  · simp only [World.perform, took, tookToo]
    cases outcome with
    | error fault =>
      exact twins.still (.of_eq kept) (.of_eq keptToo) supply twins.live twins.windows twins.lent
    | ok block =>
      have size : one.blockSizeOf source = other.blockSizeOf source := by
        unfold blockSizeOf
        rw [twins.supply.sources]
      refine twins.still (.of_eq kept) (.of_eq keptToo) supply twins.live twins.windows ?_
      simp only [size, twins.lent]

theorem give (twins : one.Twin other) (loan : Loan) :
    one.Concurs other (.give loan) (.give loan) := by
  obtain ⟨outcome, after, afterToo, gave, gaveToo, supply, kept, keptToo⟩ :=
    give_alike twins.supply loan.source loan.region.start
  constructor
  · simp only [answer, gave, gaveToo]
  · simp only [World.perform, gave, gaveToo]
    cases outcome with
    | error fault =>
      exact twins.still (.of_eq kept) (.of_eq keptToo) supply twins.live twins.windows twins.lent
    | ok _ =>
      exact twins.still (.of_eq kept) (.of_eq keptToo) supply twins.live twins.windows
        (congrArg (List.erase · loan) twins.lent)

/-- **One step.** Alike acts of honest twins are answered alike and leave twins. -/
theorem perform (twins : one.Twin other) (sound : one.Sound) (soundToo : other.Sound)
    (alike : act.Alike also) (honest : one.Honest act) (honestToo : other.Honest also) :
    one.Concurs other act also := by
  obtain ⟨fresh, obeys⟩ := honest
  obtain ⟨freshToo, obeysToo⟩ := honestToo
  cases alike with
  | create => exact twins.create obeys
  | setUp => exact twins.setUp sound soundToo fresh freshToo
  | request name => exact twins.request sound soundToo name
  | publish => exact twins.publish sound soundToo obeys
  | release => exact twins.release sound soundToo obeys
  | write =>
    refine ⟨rfl, twins.still (sound.write_still obeys) (soundToo.write_still obeysToo) ?_
      twins.live twins.windows twins.lent⟩
    exact ⟨twins.supply.sources, twins.supply.system, twins.supply.interludes⟩
  | take source => exact twins.take source
  | give loan => exact twins.give loan
  | drop name => exact twins.drop sound soundToo name
  | outside same =>
    refine ⟨rfl, twins.still (.of_eq ⟨rfl, rfl⟩) (.of_eq ⟨rfl, rfl⟩) ?_ twins.live twins.windows
      twins.lent⟩
    exact ⟨same.sources, same.system, same.interludes⟩

omit [BlockSource σ] in
theorem start {first second : Allocator σ} (supply : first.SameSupply second) :
    (World.start first).Twin (World.start second) :=
  ⟨⟨supply.sources, supply.system, supply.interludes⟩, rfl, rfl, rfl, rfl,
    fun _ _ absurd => by cases absurd⟩

end Twin

/-! ## Whole runs -/

/-- Two runs side by side: the worlds look the same at every point, and every two acts are
answered alike. -/
def InStep (one other : World σ) : List (Act σ) → List (Act σ) → Prop
  | act :: rest, also :: others => one.Indistinct other ∧ one.answer act = other.answer also ∧
    (one.perform act).InStep (other.perform also) rest others
  | [], [] => one.Indistinct other
  | _, _ => False

/-- Twins stay in step as long as nobody is to blame. -/
theorem Twin.run {acts also : List (Act σ)} (twins : one.Twin other) (sound : one.Sound)
    (soundToo : other.Sound) (alike : List.Forall₂ Act.Alike acts also)
    (honest : one.HonestRun acts) (honestToo : other.HonestRun also) :
    one.InStep other acts also := by
  induction alike generalizing one other with
  | nil => exact twins.indistinct
  | cons same _ ih =>
    obtain ⟨here, later⟩ := honest
    obtain ⟨hereToo, laterToo⟩ := honestToo
    have step := twins.perform sound soundToo same here hereToo
    exact ⟨twins.indistinct, step.answers, ih step.twins (sound.perform here)
      (soundToo.perform hereToo) later laterToo⟩

/-- **Decisions do not depend on data.** Two honest runs of the same acts on sources and a
system in the same state, in any two memories, with any two configurations of each pool and
whatever is written into elements, are answered alike and look the same at every point. -/
theorem decisions_ignore_data {first second : Allocator σ} {acts also : List (Act σ)}
    (supply : first.SameSupply second) (alike : List.Forall₂ Act.Alike acts also)
    (honest : (World.start first).HonestRun acts)
    (honestToo : (World.start second).HonestRun also) :
    (World.start first).InStep (World.start second) acts also :=
  (Twin.start supply).run (.start first) (.start second) alike honest honestToo

/-- The workshop with memory in which every byte is set. -/
def dusty : World Shelf :=
  .start { workshop.allocator with memory := ⟨.whole fun _ => 0xFF⟩ }

/-- An element is written into, given back and handed out again. -/
def errand (config : Config) (data : UInt8) : List (Act Shelf) :=
  [.create "wide" "shelf" 4096 2000 config, .setUp "wide" 0, .request "wide",
    .publish ⟨"wide", 65536, 4096⟩, .write 65632 16 fun _ => data, .request "wide",
    .release "wide" 65632, .request "wide"]

theorem decisions_ignore_data_errand :
    (workshop.run (errand .performance 7)).allocator.memory.bytes 65632 16 ≠
      (dusty.run (errand .debug 8)).allocator.memory.bytes 65632 16 ∧
    (workshop.run (errand .performance 7)).live = [("wide", 67632), ("wide", 65632)] ∧
    workshop.InStep dusty (errand .performance 7) (errand .debug 8) := by
  have supply : workshop.allocator.SameSupply { workshop.allocator with
      memory := ⟨.whole fun _ => 0xFF⟩ } := ⟨rfl, rfl, rfl⟩
  have alike : List.Forall₂ Act.Alike (errand .performance 7) (errand .debug 8) :=
    .cons (.create ..) <| .cons (.setUp ..) <| .cons (.request _) <| .cons (.publish _) <|
      .cons (.write ..) <| .cons (.request _) <| .cons (.release ..) <| .cons (.request _) .nil
  have honest : workshop.HonestRun (errand .performance 7) := by decide +kernel
  have honestToo : dusty.HonestRun (errand .debug 8) := by decide +kernel
  exact ⟨by decide +kernel, by decide +kernel,
    decisions_ignore_data supply alike honest honestToo⟩

end World

end SlabAllocator
