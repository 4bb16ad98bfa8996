import SlabAllocator.Proofs.Allocator.Failures
import SlabAllocator.Proofs.Allocator.Plan
import SlabAllocator.Proofs.Allocator.Serving

/-! Pools conform to the plan. Headers, link words, rings and the index of ends are how a pool
carries out what the plan says: act by act it gives the answers of the plan and has the slabs
of the plan in the order of the plan. The relation of a pool to its plot is `Shows`, so each
act is one lemma about what the arrangement of one pool becomes. -/
namespace SlabAllocator

open ElementPool

variable {σ : Type}

/-- A pool has the slabs its plot says, in the same order, and they stand in memory: the rows of
the plot are the rings that the links in the headers and the anchors of the pool make up. -/
structure Plot.Depicts (plot : Plot) (tenant : Tenant) (memory : Memory) : Prop where
  source : tenant.source = plot.source
  ready : tenant.pool.ready = plot.ready
  shows : tenant.pool.Shows memory plot.view
  slabCount : tenant.pool.slabCount = plot.view.carved.length
  roomyRing : (tenant.pool.rings memory).Joined
    (Rings.circuit partialRing (plot.view.roomy.map Piece.base))
  fullRing : (tenant.pool.rings memory).Joined
    (Rings.circuit fullRing (plot.view.full.map Piece.base))
  partialSlabs : tenant.pool.partialSlabs memory = plot.view.roomy.map Piece.base
  fullSlabs : tenant.pool.fullSlabs memory = plot.view.full.map Piece.base

theorem Plot.depicts_of_shows {plot : Plot} {tenant : Tenant} {memory : Memory}
    (source : tenant.source = plot.source) (ready : tenant.pool.ready = plot.ready)
    (shows : tenant.pool.Shows memory plot.view) : plot.Depicts tenant memory :=
  ⟨source, ready, shows, shows.slabCount_eq, shows.threads.joined.1, shows.threads.joined.2,
    shows.partialSlabs_eq, shows.fullSlabs_eq⟩

/-- Asked the same of the same system, a pool and its plot are set up alike or not at all. -/
theorem Plot.Depicts.init {plot : Plot} {tenant : Tenant} {memory : Memory}
    (depicted : plot.Depicts tenant memory) (measured : tenant.pool.Measured)
    (bounded : tenant.pool.blockSize < wordLimit) (system : System) (count : Nat) :
    (∃ fault, tenant.pool.init memory system count = .error fault ∧
      plot.setUp system count = .error fault) ∨
    ∃ setup, tenant.pool.init memory system count = .ok setup ∧ setup.pool.ready = true ∧
      plot.setUp system count =
        .ok (⟨plot.view.equipped setup.pool.resident, true, plot.source⟩, setup.system) := by
  have sizes : plot.view.elementSize = tenant.pool.elementSize := depicted.shows.elementSize.symm
  have layouts : plot.residentLayout count = tenant.pool.residentLayout count := by
    unfold Plot.residentLayout
    rw [sizes]
    rfl
  unfold ElementPool.init Plot.setUp room
  simp only [← depicted.ready, sizes, layouts, ← depicted.shows.blockSize]
  -- Both sides check in one order: ready, element size, block size, then the resident slab.
  cases ready : tenant.pool.ready with
  | true => exact .inl ⟨_, rfl, rfl⟩
  | false =>
    simp only [Bool.false_eq_true, ↓reduceIte]
    by_cases empty : tenant.pool.elementSize = 0
    · simp only [empty, ↓reduceIte]
      exact .inl ⟨_, rfl, rfl⟩
    · by_cases large : tenant.pool.blockSize - Slab.headerBytes < tenant.pool.elementSize
      · simp only [empty, large, ↓reduceIte]
        exact .inl ⟨_, rfl, rfl⟩
      · by_cases none : count = 0
        · simp only [empty, large, none, ↓reduceIte]
          have bare : tenant.pool.resident = .none := by
            rw [depicted.shows.resident, depicted.shows.idle ready]
            rfl
          refine .inr ⟨_, rfl, rfl, ?_⟩
          simp only [bare]
          rfl
        · simp only [empty, large, none, ↓reduceIte]
          cases shaped : tenant.pool.residentLayout count with
          | error fault => exact .inl ⟨fault, rfl, rfl⟩
          | ok layout =>
            cases granted : system.request layout with
            | error fault =>
              refine .inl ⟨fault, ?_, ?_⟩
              · simp only [granted, bind, Except.bind]
              · simp only [granted]
            | ok result =>
              have words := measured.whole_elements bounded (Nat.le_of_not_lt large)
              obtain ⟨formatted, made⟩ :=
                format?_resident shaped none words empty memory result.1
              let resident : Resident := ⟨result.1, layout.size⟩
              refine .inr ⟨⟨{ tenant.pool with ready := true, resident := some resident },
                formatted, result.2⟩, ?_, rfl, ?_⟩
              · simp only [granted, made, bind, Except.bind]
                rfl
              · simp only [granted]
                rfl

namespace Plan

/-- The plan asks the same sources and the same system. -/
structure Supplies (plan : Plan σ) (allocator : Allocator σ) : Prop where
  sources : allocator.sources = plan.sources
  system : allocator.system = plan.system

/-- The pools of an allocator are as the plan has them. -/
structure Depicts (plan : Plan σ) (allocator : Allocator σ) : Prop where
  supplies : plan.Supplies allocator
  names : allocator.pools.names = plan.plots.names
  plots : ∀ name tenant, allocator.pools.find? name = some tenant →
    ∃ plot, plan.plots.find? name = some plot ∧ plot.Depicts tenant allocator.memory

end Plan

/-- An act of a caller who nests no calls and makes pools of whole blocks only. -/
def Act.Plain : Act σ → Prop
  | .create _ _ blockSize _ _ => blockSize % wordBytes = 0 ∧ blockSize < wordLimit
  | .publish _ => False
  | .outside other => other.interludes = .empty
  | _ => True

namespace World

variable [BlockSource σ] {world : World σ} {plan : Plan σ} {act : Act σ} {acts : List (Act σ)}
  {name source : String} {tenant : Tenant} {plot : Plot} {after : Allocator σ}

/-- Carries out an act to its end, a request with all it takes. -/
def complete (world : World σ) : Act σ → Answer × World σ
  | .request name =>
    let (reply, after) := world.allocator.alloc name
    (.handed reply.outcome,
      { world with allocator := after, live := world.live ++ entries name reply.outcome })
  | act => (world.answer act, world.perform act)

/-- Nobody is to blame for any of these acts, each carried out to its end. -/
def HonestCalls (world : World σ) : List (Act σ) → Prop
  | [] => True
  | act :: rest => world.Honest act ∧ (world.complete act).2.HonestCalls rest

/-- Act by act, the answers are those of the plan and the pools are as the plan has them. -/
def Follows (world : World σ) (plan : Plan σ) : List (Act σ) → Prop
  | [] => plan.Depicts world.allocator
  | act :: rest => plan.Depicts world.allocator ∧ (world.complete act).1 = (plan.perform act).1 ∧
    (world.complete act).2.Follows (plan.perform act).2 rest

instance decideHonestCalls : ∀ (world : World σ) (acts : List (Act σ)),
    Decidable (world.HonestCalls acts)
  | _, [] => inferInstanceAs (Decidable True)
  | world, act :: rest =>
    have := decideHonestCalls (world.complete act).2 rest
    inferInstanceAs (Decidable (_ ∧ _))

/-! ## Calls are acts -/

/-- A request that nothing comes between is one act or two. -/
private theorem request_run (quiet : world.allocator.interludes = .empty)
    (honest : world.Honest (.request name)) :
    ∃ acts, world.HonestRun acts ∧ (world.complete (.request name)).2 = world.run acts ∧
      (world.complete (.request name)).2.allocator.interludes = .empty := by
  have kept := world.allocator.seek_interludes name
  cases sought : world.allocator.seek name with
  | mk progress after =>
    rw [sought] at kept
    cases progress with
    | settled outcome =>
      have answered := Allocator.allocAt_settled sought world.allocator.interludes.size
      refine ⟨[.request name], ⟨honest, trivial⟩, ?_, ?_⟩
      · show _ = world.perform (.request name)
        rw [perform_request sought]
        simp only [complete, Allocator.alloc, answered, Reply.outcome]
      · simp only [complete, Allocator.alloc, answered]
        exact kept.trans quiet
    -- A source without an interlude answers at once, so the request and its publication follow each
    -- other.
    | awaiting source block =>
      have none : after.interludes.find? source = none := by
        rw [kept, quiet]
        rfl
      have later := after.publish_interludes name block
      cases published : after.publish name block with
      | mk outcome last =>
        rw [published] at later
        have answered :=
          Allocator.allocAt_carved sought none published world.allocator.interludes.size
        have begun := perform_awaiting sought
        let window : Window :=
          ⟨name, block, ((world.pool? name).map ElementPool.blockSize).getD 0⟩
        have carved : (world.perform (.request name)).perform (.publish window) =
            { world with allocator := last, live := world.live ++ entries name outcome } := by
          rw [begun, perform_publish _ window published]
          simp only [window, List.erase_cons_head]
        refine ⟨[.request name, .publish window], ⟨honest, ⟨?_, ?_⟩, trivial⟩, ?_, ?_⟩
        · exact fun region absurd => by cases absurd
        · rw [begun]
          exact List.mem_cons_self
        · show _ = (world.perform (.request name)).perform (.publish window)
          rw [carved]
          simp only [complete, Allocator.alloc, answered, Reply.outcome]
        · simp only [complete, Allocator.alloc, answered]
          exact (later.trans kept).trans quiet

/-- Nothing is announced by acts that nest nothing. -/
private theorem perform_quiet (quiet : world.allocator.interludes = .empty) (plain : act.Plain) :
    (world.perform act).allocator.interludes = .empty := by
  cases act with
  | outside other => exact plain
  | _ => exact (world.perform_interludes fun _ absurd => by cases absurd).trans quiet

/-- What callers do is a run of acts, and nothing is announced in it. -/
theorem complete_run (quiet : world.allocator.interludes = .empty) (plain : act.Plain)
    (honest : world.Honest act) : ∃ acts, world.HonestRun acts ∧
      (world.complete act).2 = world.run acts ∧
      (world.complete act).2.allocator.interludes = .empty := by
  cases act with
  | request name => exact request_run quiet honest
  | publish => cases plain
  | _ => exact ⟨[_], ⟨honest, trivial⟩, rfl, perform_quiet quiet plain⟩

end World

/-! ## Sources and the system -/

namespace Plan

variable [BlockSource σ] {plan planned : Plan σ} {allocator : Allocator σ} {name source : String}

theorem Supplies.take (supplies : plan.Supplies allocator) (source : String) :
    ∃ outcome after planned, allocator.takeBlock source = (outcome, after) ∧
      plan.take source = (outcome, planned) ∧ planned.Supplies after ∧
      planned.plots = plan.plots ∧ after.memory = allocator.memory ∧
      after.pools = allocator.pools := by
  obtain ⟨sources, system⟩ := supplies
  unfold Plan.take
  rw [← sources, ← system]
  cases found : allocator.sources.find? source with
  | none =>
    exact ⟨_, _, _, Allocator.takeBlock_absent found, rfl, ⟨sources, system⟩, rfl, rfl, rfl⟩
  | some supply =>
    simp only
    cases took : BlockSource.take supply allocator.system with
    | error fault =>
      exact ⟨_, _, _, Allocator.takeBlock_refused found took, rfl, ⟨sources, system⟩, rfl, rfl, rfl⟩
    | ok taken =>
      exact ⟨_, _, _, Allocator.takeBlock_taken found took, rfl, ⟨rfl, rfl⟩, rfl, rfl, rfl⟩

theorem Supplies.give (supplies : plan.Supplies allocator) (source : String) (block : Nat) :
    ∃ outcome after planned, allocator.giveBlock source block = (outcome, after) ∧
      plan.give source block = (outcome, planned) ∧ planned.Supplies after ∧
      planned.plots = plan.plots ∧ after.memory = allocator.memory ∧
      after.pools = allocator.pools := by
  obtain ⟨sources, system⟩ := supplies
  unfold Plan.give
  rw [← sources, ← system]
  cases found : allocator.sources.find? source with
  | none =>
    exact ⟨_, _, _, Allocator.giveBlock_absent block found, rfl, ⟨sources, system⟩, rfl, rfl, rfl⟩
  | some supply =>
    simp only
    cases gave : BlockSource.give supply allocator.system block with
    | error fault =>
      exact ⟨_, _, _, Allocator.giveBlock_refused found gave, rfl, ⟨sources, system⟩, rfl, rfl, rfl⟩
    | ok given =>
      exact ⟨_, _, _, Allocator.giveBlock_given found gave, rfl, ⟨rfl, rfl⟩, rfl, rfl, rfl⟩

theorem Supplies.giveAll (supplies : plan.Supplies allocator) (source : String)
    (blocks : List Nat) : (plan.giveAll source blocks).Supplies (allocator.offerAll source blocks).2 ∧
      (plan.giveAll source blocks).plots = plan.plots := by
  induction blocks generalizing plan allocator with
  | nil => exact ⟨supplies, rfl⟩
  | cons block rest ih =>
    obtain ⟨outcome, after, planned, gave, given, supplies, plots, -⟩ := supplies.give source block
    obtain ⟨last, kept⟩ := ih supplies
    unfold Plan.giveAll Allocator.offerAll
    simp only [gave, given]
    exact ⟨last, kept.trans plots⟩

end Plan

/-! ## One act -/

/-- The blocks of a pool are whole words, of a size that fits in a word. -/
def Plot.Whole (plot : Plot) : Prop :=
  plot.view.blockSize % wordBytes = 0 ∧ plot.view.blockSize < wordLimit

/-- The blocks of all pools are. -/
def Plan.Whole (plan : Plan σ) : Prop :=
  ∀ name plot, plan.plots.find? name = some plot → plot.Whole

section still

variable {plan planned : Plan σ} {allocator after : Allocator σ}

/-- No pool moved. -/
theorem Plan.Depicts.keep (depicts : plan.Depicts allocator)
    (pools : after.pools = allocator.pools)
    (frame : ∀ name tenant view, allocator.pools.find? name = some tenant →
      tenant.pool.Shows allocator.memory view → tenant.pool.Shows after.memory view)
    (supplies : planned.Supplies after) (plots : planned.plots = plan.plots) :
    planned.Depicts after := by
  refine ⟨supplies, by rw [pools, plots, depicts.names], fun name tenant found => ?_⟩
  rw [pools] at found
  obtain ⟨plot, known, depicted⟩ := depicts.plots name tenant found
  exact ⟨plot, by rw [plots, known], Plot.depicts_of_shows depicted.source depicted.ready
    (frame name tenant plot.view found depicted.shows)⟩

/-- No pool moved and nothing was written. -/
theorem Plan.Depicts.same (depicts : plan.Depicts allocator)
    (kept : after.memory = allocator.memory ∧ after.pools = allocator.pools)
    (supplies : planned.Supplies after) (plots : planned.plots = plan.plots) :
    planned.Depicts after :=
  depicts.keep kept.2 (fun _ _ _ _ shows => shows.of_agree fun region _ => .of_eq kept.1 region)
    supplies plots

/-- Something was noted down. -/
theorem Plan.Depicts.note (depicts : plan.Depicts allocator) (events : List Event) :
    plan.Depicts (allocator.note events) :=
  depicts.same ⟨rfl, rfl⟩ ⟨depicts.supplies.sources, depicts.supplies.system⟩ rfl

theorem Plan.Whole.keep (whole : plan.Whole) (plots : planned.plots = plan.plots) :
    planned.Whole := by
  unfold Plan.Whole
  rwa [plots]

end still

namespace World

variable {world later : World σ} {plan planned : Plan σ} {act : Act σ} {acts : List (Act σ)}
  {name source : String} {tenant : Tenant} {plot : Plot} {next : ElementPool}

/-- One pool moved, and the plan with it. -/
theorem Sound.Advances.depicts {after : Allocator σ} (placed : Plot)
    (advances : Sound.Advances world after name tenant next placed.view) (sound : world.Sound)
    (depicts : plan.Depicts world.allocator) (source : tenant.source = placed.source)
    (ready : next.ready = placed.ready) (supplies : planned.Supplies after)
    (plots : planned.plots = plan.plots.insert name placed) : planned.Depicts after := by
  obtain ⟨plot, known, -⟩ := depicts.plots name tenant advances.found
  have once : plan.plots.names.Nodup := by
    rw [← depicts.names]
    exact sound.names
  refine ⟨supplies, ?_, fun other owner held => ?_⟩
  · rw [advances.pools, plots, Table.names_insert sound.names advances.found,
      Table.names_insert once known, depicts.names]
  · rw [advances.pools] at held
    rw [plots]
    -- Only the pool that advanced has a new plot; the others stand where they stood.
    rcases Table.find?_insert_cases held with ⟨rfl, rfl⟩ | ⟨different, held⟩
    · exact ⟨placed, Table.find?_insert_self _ _ _,
        Plot.depicts_of_shows source ready advances.shown⟩
    · obtain ⟨plot, known, depicted⟩ := depicts.plots other owner held
      exact ⟨plot, by rw [Table.find?_insert_of_ne _ _ different, known],
        Plot.depicts_of_shows depicted.source depicted.ready
          (advances.bystander held different depicted.shows)⟩

/-- The pool that moved has blocks of the size it had. -/
theorem Sound.Advances.whole {after : Allocator σ} (placed : Plot)
    (advances : Sound.Advances world after name tenant next placed.view)
    (depicts : plan.Depicts world.allocator) (whole : plan.Whole)
    (plots : planned.plots = plan.plots.insert name placed) : planned.Whole := by
  obtain ⟨plot, known, depicted⟩ := depicts.plots name tenant advances.found
  have same : placed.view.blockSize = plot.view.blockSize :=
    (advances.shown.blockSize.symm.trans advances.size).trans depicted.shows.blockSize
  intro other spot held
  rw [plots] at held
  rcases Table.find?_insert_cases held with ⟨rfl, rfl⟩ | ⟨-, held⟩
  · unfold Plot.Whole
    rw [same]
    exact whole _ plot known
  · exact whole other spot held

variable [BlockSource σ]

/-- A world whose pools are as the plan has them, with what callers can rely on. -/
structure Conforms (world : World σ) (plan : Plan σ) : Prop where
  depicts : plan.Depicts world.allocator
  whole : plan.Whole
  sound : world.Sound
  measured : world.Measured
  quiet : world.allocator.interludes = .empty

omit [BlockSource σ] in
theorem Conforms.absent (conforms : world.Conforms plan)
    (absent : world.allocator.pools.find? name = none) : plan.plots.find? name = none := by
  rw [Table.find?_eq_none_iff] at absent ⊢
  rwa [← conforms.depicts.names]

/-- What an act is answered and what it leaves is as the plan has it. -/
structure Agrees (world : World σ) (plan : Plan σ) (act : Act σ) : Prop where
  answers : (world.complete act).1 = (plan.perform act).1
  depicts : (plan.perform act).2.Depicts (world.complete act).2.allocator
  whole : (plan.perform act).2.Whole

theorem Agrees.of_eq {after : Allocator σ} (answer : Answer)
    (answered : (world.complete act).1 = answer)
    (left : (world.complete act).2.allocator = after)
    (told : plan.perform act = (answer, planned)) (depicts : planned.Depicts after)
    (whole : planned.Whole) : world.Agrees plan act := by
  constructor
  · rw [answered, told]
  · rwa [left, told]
  · rwa [told]

namespace Conforms

/-- A request that is answered without a new slab. -/
private theorem settled {outcome : Except Fault Nat} {after : Allocator σ}
    (sought : world.allocator.seek name = (.settled outcome, after))
    (told : plan.alloc name = (outcome, planned)) (depicts : planned.Depicts after)
    (whole : planned.Whole) : world.Agrees plan (.request name) := by
  have answered := Allocator.allocAt_settled sought world.allocator.interludes.size
  refine .of_eq (.handed outcome) ?_ ?_ (by simp only [Plan.perform, told]) depicts whole
  · simp only [complete, Allocator.alloc, answered, Reply.outcome]
  · simp only [complete, Allocator.alloc, answered]

/-- A request for which a block is taken and carved. -/
private theorem carved {outcome : Except Fault Nat} {block : Nat} {after last : Allocator σ}
    (quiet : world.allocator.interludes = .empty)
    (sought : world.allocator.seek name = (.awaiting source block, after))
    (published : after.publish name block = (outcome, last))
    (told : plan.alloc name = (outcome, planned)) (depicts : planned.Depicts last)
    (whole : planned.Whole) : world.Agrees plan (.request name) := by
  have kept := world.allocator.seek_interludes name
  rw [sought, quiet] at kept
  have none : after.interludes.find? source = none := by
    rw [kept]
    rfl
  have answered := Allocator.allocAt_carved sought none published world.allocator.interludes.size
  refine .of_eq (.handed outcome) ?_ ?_ (by simp only [Plan.perform, told]) depicts whole
  · simp only [complete, Allocator.alloc, answered, Reply.outcome]
  · simp only [complete, Allocator.alloc, answered]

/-- A block on its way is carved as the plan has it. -/
private theorem published {window : Window} {view : View} (sound : world.Sound)
    (member : window ∈ world.windows)
    (found : world.allocator.pools.find? window.pool = some tenant)
    (shows : tenant.pool.Shows world.allocator.memory view) (ready : tenant.pool.ready = true)
    (measured : tenant.pool.Measured) (words : tenant.pool.blockSize % wordBytes = 0) :
    ∃ next last, world.allocator.publish window.pool window.region.start =
        (.ok (view.carve window.region.start).1, last) ∧
      Sound.Advances world last window.pool tenant next (view.carve window.region.start).2 ∧
      next.ready = true ∧ last.sources = world.allocator.sources ∧
      last.system = world.allocator.system := by
  have usable := sound.window_usable member found shows measured ready words
  obtain ⟨adopted, arranged, made, answered, placed, shown, within, -⟩ :=
    sound.publish_fit member found shows usable
  -- On a block that can be carved the plan carves what the view adopts.
  rw [View.adopt_eq_carve usable] at placed
  obtain ⟨address, rfl⟩ := Prod.mk.inj (Option.some.inj placed)
  have counted := adopt?_counted made
  rw [← address] at answered
  exact ⟨adopted.pool, _, answered,
    .of_carved sound member found shows rfl shown counted.same.blockSize within,
    counted.ready.trans ready, rfl, rfl⟩

/-- A slab the pool has serves the request. -/
private theorem request_served {address : Nat} {arranged : View} (conforms : world.Conforms plan)
    (found : world.allocator.pools.find? name = some tenant)
    (known : plan.plots.find? name = some plot)
    (depicted : plot.Depicts tenant world.allocator.memory) (ready : tenant.pool.ready = true)
    (served : plot.view.attempt = some (address, arranged)) :
    world.Agrees plan (.request name) := by
  obtain ⟨depicts, whole, sound, -⟩ := conforms
  obtain ⟨next, changed, piece, fresh, attempted, sought, moved, shown, within⟩ :=
    Sound.seek_arranged found depicted.shows ready served
  have counted := attempt_counted attempted
  let placed : Plot := { plot with view := arranged }
  have advances : Sound.Advances world
      ({ world.allocator.setPool name tenant next with memory := changed }.hand address)
      name tenant next placed.view :=
    .of_within sound found depicted.shows rfl shown counted.same.blockSize
      (depicted.shows.region_of_piece moved.mem) within
  have told : plan.alloc name = (.ok address, plan.put name placed) := by
    have set := depicted.ready.symm.trans ready
    unfold Plan.alloc
    simp only [placed, known, set, served, not_true_eq_false, ↓reduceIte]
  exact settled sought told
    (advances.depicts placed sound depicts depicted.source (counted.ready.trans depicted.ready)
      ⟨depicts.supplies.sources, depicts.supplies.system⟩ rfl)
    (advances.whole placed depicts whole rfl)

/-- No slab the pool has serves the request, so a block is asked for. -/
private theorem request_drained (conforms : world.Conforms plan)
    (honest : world.Honest (.request name))
    (found : world.allocator.pools.find? name = some tenant)
    (known : plan.plots.find? name = some plot)
    (depicted : plot.Depicts tenant world.allocator.memory) (ready : tenant.pool.ready = true)
    (nothing : plot.view.attempt = none) : world.Agrees plan (.request name) := by
  obtain ⟨depicts, whole, sound, measured, quiet⟩ := conforms
  obtain ⟨outcome, after, planned, took, taken, supplies, plots, kept⟩ :=
    depicts.supplies.take tenant.source
  have set := depicted.ready.symm.trans ready
  have sought := Sound.seek_drained sound.names found depicted.shows ready nothing
  rw [took] at sought
  rw [depicted.source] at taken
  have reached := depicts.same kept supplies plots
  cases outcome with
  | error fault =>
    have told : plan.alloc name = (.error fault, planned) := by
      unfold Plan.alloc
      simp only [known, set, nothing, taken, not_true_eq_false, ↓reduceIte]
    exact settled sought told reached (whole.keep plots)
  | ok block =>
    have here : after.pools.find? name = some tenant := by rw [kept.2, found]
    have shows : tenant.pool.Shows after.memory plot.view :=
      depicted.shows.of_agree fun region _ => .of_eq kept.1 region
    have words : tenant.pool.blockSize % wordBytes = 0 := by
      rw [depicted.shows.blockSize]
      exact (whole name plot known).1
    -- The plan carves at once; here the block is in flight first, so soundness is taken from there.
    have waiting := sound.perform honest
    rw [perform_awaiting sought] at waiting
    obtain ⟨next, last, answered, advances, prepared, sources, system⟩ :=
      published waiting List.mem_cons_self here shows ready (measured name tenant found) words
    let placed : Plot := { plot with view := (plot.view.carve block).2 }
    have told : plan.alloc name =
        (.ok (plot.view.carve block).1, planned.put name placed) := by
      unfold Plan.alloc
      simp only [placed, known, set, nothing, taken, not_true_eq_false, ↓reduceIte]
    exact carved quiet sought answered told
      (advances.depicts placed waiting reached depicted.source (prepared.trans set.symm)
        ⟨sources.trans supplies.sources, system.trans supplies.system⟩ rfl)
      (advances.whole placed reached (whole.keep plots) rfl)

theorem request (conforms : world.Conforms plan) (honest : world.Honest (.request name)) :
    world.Agrees plan (.request name) := by
  obtain ⟨depicts, whole, -⟩ := id conforms
  cases found : world.allocator.pools.find? name with
  | none =>
    refine settled (Allocator.seek_absent found) ?_ (depicts.note _) whole
    unfold Plan.alloc
    rw [conforms.absent found]
  | some tenant =>
    obtain ⟨plot, known, depicted⟩ := depicts.plots name tenant found
    cases ready : tenant.pool.ready with
    | false =>
      refine settled (Allocator.seek_unready found ready) ?_ (depicts.note _) whole
      unfold Plan.alloc
      simp only [known, ← depicted.ready, ready, Bool.false_eq_true, not_false_eq_true, ↓reduceIte]
    | true =>
      cases served : plot.view.attempt with
      | some result => exact conforms.request_served found known depicted ready served
      | none => exact conforms.request_drained honest found known depicted ready served

/-- A release that is answered as the plan has it. -/
private theorem returned {address : Nat} {outcome : Except Fault Unit} {after : Allocator σ}
    (freed : world.allocator.free name address = (outcome, after))
    (told : plan.release name address = (outcome, planned)) (depicts : planned.Depicts after)
    (whole : planned.Whole) : world.Agrees plan (.release name address) := by
  refine .of_eq (.done outcome) ?_ (congrArg Prod.snd freed) (by simp only [Plan.perform, told]) depicts whole
  simp only [complete, answer, freed]

/-- The element is taken back. -/
private theorem release_taken {address : Nat} {gone : Option Nat} {arranged : View}
    (conforms : world.Conforms plan) (found : world.allocator.pools.find? name = some tenant)
    (known : plan.plots.find? name = some plot)
    (depicted : plot.Depicts tenant world.allocator.memory) (visible : ¬ plot.view.Hidden address)
    (taken : plot.view.free address = .ok (gone, arranged)) :
    world.Agrees plan (.release name address) := by
  obtain ⟨depicts, whole, sound, -⟩ := conforms
  obtain ⟨piece, fresh, freed, moved, accepted, retired, shown, within⟩ :=
    depicted.shows.free_ok visible taken
  have counted := free_counted accepted
  let placed : Plot := { plot with view := arranged }
  have advances : Sound.Advances world (world.allocator.letGo name tenant freed) name tenant
      freed.pool placed.view :=
    .of_within sound found depicted.shows rfl shown counted.same.blockSize
      (depicted.shows.region_of_piece moved.mem) within
  have reached : (plan.put name placed).Depicts (world.allocator.letGo name tenant freed) :=
    advances.depicts placed sound depicts depicted.source (counted.ready.trans depicted.ready)
      ⟨depicts.supplies.sources, depicts.supplies.system⟩ rfl
  have sized : (plan.put name placed).Whole := advances.whole placed depicts whole rfl
  -- The plot is put back first and the block given to its source afterwards, on both sides.
  cases gone with
  | none =>
    refine returned (Allocator.free_kept found accepted retired) ?_ reached sized
    unfold Plan.release
    simp only [known, taken]
    rfl
  | some base =>
    have answered := Allocator.free_emptied found accepted retired
    obtain ⟨outcome, after, planned, gave, given, supplies, plots, kept⟩ :=
      reached.supplies.give tenant.source base
    have told : plan.release name address = (outcome, planned) := by
      unfold Plan.release
      simp only [known, taken]
      rwa [depicted.source] at given
    have returning := reached.same kept supplies plots
    rw [gave] at answered
    cases outcome with
    | error fault => exact returned answered told returning (sized.keep plots)
    | ok _ => exact returned answered told (returning.note _) (sized.keep plots)

theorem release (conforms : world.Conforms plan) {address : Nat}
    (obeys : world.Obeys (.release name address)) : world.Agrees plan (.release name address) := by
  obtain ⟨depicts, whole, -⟩ := id conforms
  cases found : world.allocator.pools.find? name with
  | none =>
    refine returned (Allocator.free_absent _ found) ?_ (depicts.note _) whole
    unfold Plan.release
    rw [conforms.absent found]
  | some tenant =>
    obtain ⟨plot, known, depicted⟩ := depicts.plots name tenant found
    simp only [Obeys, pool?, found, Option.map_some, Option.mem_def, Option.some.injEq,
      forall_eq'] at obeys
    have visible := depicted.shows.not_hidden obeys
    cases taken : plot.view.free address with
    | error fault =>
      have refused := depicted.shows.free_error visible taken
      refine returned (Allocator.free_rejected found refused) ?_ (depicts.note _) whole
      unfold Plan.release
      simp only [known, taken]
    | ok result => exact conforms.release_taken found known depicted visible taken

/-- A set-up that is answered as the plan has it. -/
private theorem arranged {count : Nat} {outcome : Except Fault Unit} {after : Allocator σ}
    (made : world.allocator.initPool name count = (outcome, after))
    (told : plan.setUp name count = (outcome, planned)) (depicts : planned.Depicts after)
    (whole : planned.Whole) : world.Agrees plan (.setUp name count) := by
  refine .of_eq (.done outcome) ?_ (congrArg Prod.snd made) (by simp only [Plan.perform, told]) depicts whole
  simp only [complete, answer, made]

theorem setUp (conforms : world.Conforms plan) {count : Nat}
    (fresh : ∀ region ∈ world.granted (.setUp name count), world.Fresh region) :
    world.Agrees plan (.setUp name count) := by
  obtain ⟨depicts, whole, sound, measured, quiet⟩ := id conforms
  cases found : world.allocator.pools.find? name with
  | none =>
    refine arranged (Allocator.initPool_absent count found) ?_ (depicts.note _) whole
    unfold Plan.setUp
    rw [conforms.absent found]
  | some tenant =>
    obtain ⟨plot, known, depicted⟩ := depicts.plots name tenant found
    have bounded : tenant.pool.blockSize < wordLimit := by
      rw [depicted.shows.blockSize]
      exact (whole name plot known).2
    rcases depicted.init (measured name tenant found) bounded world.allocator.system count with
      ⟨fault, refused, told⟩ | ⟨setup, granted, ready, told⟩
    · refine arranged (Allocator.initPool_refused found refused) ?_ (depicts.note _) whole
      unfold Plan.setUp
      simp only [known, ← depicts.supplies.system, told]
    · obtain ⟨-, advances, -⟩ := Sound.init_advances fresh found depicted.shows granted
      let placed : Plot := ⟨plot.view.equipped setup.pool.resident, true, plot.source⟩
      have moved : Sound.Advances world ((world.allocator.fitOut name tenant setup).note
          (tenant.pool.initEvents count)) name tenant setup.pool placed.view :=
        ⟨found, rfl, advances.shown, advances.frame, advances.size⟩
      have planned : plan.setUp name count =
          (.ok (), { plan.put name placed with system := setup.system }) := by
        unfold Plan.setUp
        simp only [known, ← depicts.supplies.system, told]
        rfl
      exact arranged (Allocator.initPool_made found granted) planned
        (moved.depicts placed sound depicts depicted.source ready
          ⟨depicts.supplies.sources, rfl⟩ rfl)
        (moved.whole placed depicts whole rfl)

/-- The blocks of a pool that ends are given back in the order of the plan, and its resident
slab after them. -/
private theorem drop_supplies (conforms : world.Conforms plan) (name : String) :
    (plan.drop name).Supplies (world.allocator.dropPool name) ∧
      (plan.drop name).plots = plan.plots.erase name := by
  have depicts := conforms.depicts
  cases found : world.allocator.pools.find? name with
  | none =>
    have absent := conforms.absent found
    unfold Plan.drop
    rw [Allocator.dropPool_absent found, absent]
    exact ⟨depicts.supplies, (Table.erase_of_absent (Table.find?_eq_none_iff.1 absent)).symm⟩
  | some tenant =>
    obtain ⟨plot, known, depicted⟩ := depicts.plots name tenant found
    obtain ⟨sources, system⟩ := Allocator.dropPool_supply found
    obtain ⟨supplies, plots⟩ :=
      depicts.supplies.giveAll plot.source (plot.view.carved.map Piece.base)
    rw [depicted.source, depicted.shows.slabs_eq] at sources system
    unfold Plan.drop
    rw [known]
    simp only
    refine ⟨⟨sources.trans supplies.sources, system.trans ?_⟩, congrArg (Table.erase · name) plots⟩
    rw [depicted.shows.resident, supplies.system]
    cases plot.view.resident with
    | none => rfl
    | some piece => rfl

theorem drop (conforms : world.Conforms plan) (name : String) :
    world.Agrees plan (.drop name) := by
  obtain ⟨depicts, whole, sound, measured, quiet⟩ := id conforms
  have pools := world.allocator.dropPool_pools name
  obtain ⟨supplies, plots⟩ := conforms.drop_supplies name
  -- What is left of the depiction are the names, the plots that stay, and their sizes.
  refine ⟨rfl, ⟨supplies, ?_, fun other tenant held => ?_⟩, fun other plot held => ?_⟩
  · show (world.allocator.dropPool name).pools.names = (plan.drop name).plots.names
    rw [pools, plots, Table.names_erase, Table.names_erase, depicts.names]
  · have held : (world.allocator.dropPool name).pools.find? other = some tenant := held
    rw [pools] at held
    obtain ⟨different, held⟩ := Table.find?_erase_cases held
    obtain ⟨plot, known, depicted⟩ := depicts.plots other tenant held
    refine ⟨plot, ?_, Plot.depicts_of_shows depicted.source depicted.ready
      (sound.drop_bystander held different depicted.shows)⟩
    show (plan.drop name).plots.find? other = some plot
    rw [plots, Table.find?_erase_of_ne _ different, known]
  · have held : (plan.drop name).plots.find? other = some plot := held
    rw [plots] at held
    exact whole other plot (Table.find?_erase_cases held).2

theorem create (conforms : world.Conforms plan) {blockSize elementSize : Nat} {config : Config}
    (sized : blockSize % wordBytes = 0 ∧ blockSize < wordLimit)
    (absent : name ∉ world.allocator.pools.names) :
    world.Agrees plan (.create name source blockSize elementSize config) := by
  obtain ⟨depicts, whole, sound, measured, quiet⟩ := id conforms
  have unknown : name ∉ plan.plots.names := by rwa [← depicts.names]
  refine ⟨rfl, ⟨⟨depicts.supplies.sources, depicts.supplies.system⟩, ?_, fun other tenant held => ?_⟩,
    fun other plot held => ?_⟩
  · show (world.allocator.pools.insert name _).names = (plan.plots.insert name _).names
    rw [Table.names_insert_absent absent, Table.names_insert_absent unknown, depicts.names]
  · show ∃ plot, (plan.plots.insert name (.new source blockSize elementSize)).find? other =
      some plot ∧ _
    rcases Table.find?_insert_cases held with ⟨rfl, rfl⟩ | ⟨different, held⟩
    · exact ⟨_, Table.find?_insert_self _ _ _, Plot.depicts_of_shows rfl rfl (shows_new ..)⟩
    · obtain ⟨plot, known, depicted⟩ := depicts.plots other tenant held
      exact ⟨plot, by rw [Table.find?_insert_of_ne _ _ different, known], depicted⟩
  · rcases Table.find?_insert_cases held with ⟨-, rfl⟩ | ⟨-, held⟩
    · exact sized
    · exact whole other plot held

theorem take (conforms : world.Conforms plan) (source : String) :
    world.Agrees plan (.take source) := by
  obtain ⟨depicts, whole, -⟩ := conforms
  obtain ⟨outcome, after, planned, took, taken, supplies, plots, kept⟩ :=
    depicts.supplies.take source
  refine .of_eq (.handed outcome) ?_ ?_ (by simp only [Plan.perform, taken])
    (depicts.same kept supplies plots) (whole.keep plots)
  · simp only [complete, answer, took]
  · exact (world.allocator_take source).trans (congrArg Prod.snd took)

theorem give (conforms : world.Conforms plan) (loan : Loan) : world.Agrees plan (.give loan) := by
  obtain ⟨depicts, whole, -⟩ := conforms
  obtain ⟨outcome, after, planned, gave, given, supplies, plots, kept⟩ :=
    depicts.supplies.give loan.source loan.region.start
  refine .of_eq (.done outcome) ?_ ?_ (by simp only [Plan.perform, given])
    (depicts.same kept supplies plots) (whole.keep plots)
  · simp only [complete, answer, gave]
  · exact (world.allocator_give loan).trans (congrArg Prod.snd gave)

/-- **One act.** It gets the answer of the plan, and the pools are as the plan has them. -/
theorem agrees (conforms : world.Conforms plan) (plain : act.Plain) (honest : world.Honest act) :
    world.Agrees plan act := by
  obtain ⟨depicts, whole, sound, -⟩ := id conforms
  obtain ⟨fresh, obeys⟩ := id honest
  cases act with
  | create => exact conforms.create plain obeys
  | setUp => exact conforms.setUp fresh
  | request name => exact conforms.request honest
  | publish => cases plain
  | release => exact conforms.release obeys
  | write =>
    obtain ⟨pools, frame⟩ := sound.write_still obeys
    exact ⟨rfl, depicts.keep pools frame
      ⟨depicts.supplies.sources, depicts.supplies.system⟩ rfl, whole⟩
  | take source => exact conforms.take source
  | give loan => exact conforms.give loan
  | drop name => exact conforms.drop name
  | outside other => exact ⟨rfl, depicts.same ⟨rfl, rfl⟩ ⟨rfl, rfl⟩ rfl, whole⟩

theorem step (conforms : world.Conforms plan) (plain : act.Plain) (honest : world.Honest act) :
    (world.complete act).2.Conforms (plan.perform act).2 := by
  have agrees := conforms.agrees plain honest
  obtain ⟨acts, run, same, quiet⟩ := complete_run conforms.quiet plain honest
  refine ⟨agrees.depicts, agrees.whole, ?_, ?_, quiet⟩
  · rw [same]
    exact conforms.sound.run run
  · rw [same]
    exact conforms.measured.run conforms.sound run

/-! ## Whole runs -/

theorem run (conforms : world.Conforms plan) (plain : ∀ act ∈ acts, act.Plain)
    (honest : world.HonestCalls acts) : world.Follows plan acts := by
  induction acts generalizing world plan with
  | nil => exact conforms.depicts
  | cons act rest ih =>
    obtain ⟨here, later⟩ := honest
    obtain ⟨first, others⟩ := List.forall_mem_cons.1 plain
    exact ⟨conforms.depicts, (conforms.agrees first here).answers,
      ih (conforms.step first here) others later⟩

omit [BlockSource σ] in
theorem start {allocator : Allocator σ} (quiet : allocator.interludes = .empty) :
    (World.start allocator).Conforms (Plan.start allocator) where
  depicts := ⟨⟨rfl, rfl⟩, rfl, fun _ _ absurd => by cases absurd⟩
  whole := fun _ _ absurd => by cases absurd
  sound := .start allocator
  measured := .start allocator
  quiet := quiet

end Conforms

/-- **Pools refine the plan.** Whatever callers do who nest no calls and are not to blame, on
sources of whole blocks: every answer is the one of the plan, and at every point the pools have
the slabs of the plan, in the order of the plan. -/
theorem pools_follow_plan {allocator : Allocator σ} (quiet : allocator.interludes = .empty)
    (plain : ∀ act ∈ acts, act.Plain) (honest : (World.start allocator).HonestCalls acts) :
    (World.start allocator).Follows (Plan.start allocator) acts :=
  (Conforms.start quiet).run plain honest

/-- Two slabs of two elements each fill up, the first one has room again and is filled anew.
Then the second one comes back empty, another one is carved, and the pool ends. -/
def shuffle : List (Act Shelf) :=
  [.create "wide" "shelf" 4096 2000 .standard, .setUp "wide" 0, .request "wide", .request "wide",
    .request "wide", .release "wide" 65632, .request "wide", .request "wide",
    .release "wide" 71728, .release "wide" 69728, .request "wide", .drop "wide"]

theorem pools_follow_plan_shuffle : workshop.HonestCalls shuffle ∧
    workshop.Follows (.start workshop.allocator) shuffle := by
  have honest : workshop.HonestCalls shuffle := by decide +kernel
  have plain : ∀ act ∈ shuffle, act.Plain := by
    simp [shuffle, Act.Plain, wordBytes, wordLimit]
  exact ⟨honest, @pools_follow_plan _ shuffle _ workshop.allocator rfl plain honest⟩

end World

end SlabAllocator
