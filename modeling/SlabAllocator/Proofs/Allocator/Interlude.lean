import SlabAllocator.Proofs.Allocator.Calls
import SlabAllocator.Proofs.Allocator.World
import SlabAllocator.Proofs.Table

/-! A request as it is served, with whatever is served while its block is on the way,
is a run of acts: it begins, the requests of the interlude follow one after the other,
with their own interludes, and then the block is published. What is proved of every
run therefore holds of every nesting of requests. -/
namespace SlabAllocator

mutual

/-- The addresses an answer tells of, in the order in which they were handed out. -/
def Reply.addresses : Reply → List Nat
  | .answered interlude outcome =>
    Reply.addressesAll interlude ++ outcome.toOption.toList

/-- The addresses that answers tell of, one answer after the other. -/
def Reply.addressesAll : List Reply → List Nat
  | [] => []
  | reply :: rest => Reply.addresses reply ++ Reply.addressesAll rest

end

/-- The act is one on the pool of this name. -/
def Act.Concerns {σ : Type} (name : String) : Act σ → Prop
  | .create other .. | .setUp other _ | .request other | .release other _ | .drop other =>
    other = name
  | .publish window => window.pool = name
  | .write .. | .take _ | .give _ | .outside _ => False

instance {σ : Type} (name : String) (act : Act σ) : Decidable (act.Concerns name) :=
  match act with
  | .create other .. | .setUp other _ | .request other | .release other _ | .drop other =>
    inferInstanceAs (Decidable (other = name))
  | .publish window => inferInstanceAs (Decidable (window.pool = name))
  | .write .. | .take _ | .give _ | .outside _ => inferInstanceAs (Decidable False)

/-- These acts are on no pools but such. -/
def Act.Only {σ : Type} (such : String → Prop) (acts : List (Act σ)) : Prop :=
  ∀ act ∈ acts, ∀ name, act.Concerns name → such name

/-- Interludes are announced for such pools only. -/
def Allocator.Announces {σ : Type} (such : String → Prop) (allocator : Allocator σ) : Prop :=
  ∀ entry ∈ allocator.interludes.entries, such entry.2.pool

theorem Act.Only.append {σ : Type} {such : String → Prop} {first second : List (Act σ)}
    (before : Only such first) (behind : Only such second) : Only such (first ++ second) := by
  intro act member
  rcases List.mem_append.1 member with early | late
  · exact before act early
  · exact behind act late

theorem Act.Only.cons {σ : Type} {such : String → Prop} {act : Act σ} {acts : List (Act σ)}
    (here : ∀ name, act.Concerns name → such name) (behind : Only such acts) :
    Only such (act :: acts) :=
  List.forall_mem_cons.2 ⟨here, behind⟩

namespace Allocator

variable {σ : Type} [BlockSource σ] (allocator : Allocator σ)

theorem takeBlock_interludes (source : String) :
    (allocator.takeBlock source).2.interludes = allocator.interludes := by
  rcases allocator.takeBlock_cases source with ⟨fault, answered⟩ | ⟨_, _, -, -, answered⟩ <;>
    rw [answered] <;> rfl

theorem giveBlock_interludes (source : String) (block : Nat) :
    (allocator.giveBlock source block).2.interludes = allocator.interludes := by
  rcases allocator.giveBlock_cases source block with ⟨fault, answered⟩ | ⟨_, _, -, -, answered⟩ <;>
    rw [answered] <;> rfl

theorem seek_interludes (name : String) :
    (allocator.seek name).2.interludes = allocator.interludes := by
  have ways := allocator.seek_cases name
  generalize allocator.seek name = begun at ways ⊢
  cases ways with
  | refused fault => rfl
  | served found ready served => rfl
  | @failed tenant next changed fault after found ready drained took
  | @awaits tenant next changed block after found ready drained took =>
    have kept := Allocator.takeBlock_interludes
      { allocator.setPool name tenant next with memory := changed } tenant.source
    rw [took] at kept
    exact kept

theorem publish_interludes (name : String) (block : Nat) :
    (allocator.publish name block).2.interludes = allocator.interludes := by
  have ways := allocator.publish_cases name block
  generalize allocator.publish name block = ended at ways ⊢
  cases ways with
  | refused fault => rfl
  | adopted found made => rfl
  | @unfit tenant after found unfit gave =>
    have kept := allocator.giveBlock_interludes tenant.source block
    rw [gave] at kept
    exact kept

omit [BlockSource σ] in
theorem initPool_interludes (name : String) (count : Nat) :
    (allocator.initPool name count).2.interludes = allocator.interludes := by
  rcases allocator.initPool_cases name count with ⟨fault, answered⟩ | ⟨_, _, -, -, answered⟩ <;>
    rw [answered] <;> rfl

theorem free_interludes (name : String) (address : Nat) :
    (allocator.free name address).2.interludes = allocator.interludes := by
  cases found : allocator.pools.find? name with
  | none => rw [free_absent address found]; rfl
  | some tenant =>
    cases taken : tenant.pool.free allocator.memory address with
    | error fault => rw [free_rejected found taken]; rfl
    | ok freed =>
      cases gone : freed.retired with
      | none => rw [free_kept found taken gone]; rfl
      | some base =>
        have kept := (allocator.letGo name tenant freed).giveBlock_interludes tenant.source base
        rw [free_emptied found taken gone]
        cases gave : (allocator.letGo name tenant freed).giveBlock tenant.source base with
        | mk outcome last =>
          rw [gave] at kept
          cases outcome <;> exact kept

theorem returnSlabs_interludes (source : String) (sentinels : ElementPool.Sentinels)
    (blocks : List Nat) :
    (allocator.returnSlabs source sentinels blocks).interludes = allocator.interludes := by
  induction blocks generalizing allocator sentinels with
  | nil => rfl
  | cons block rest ih =>
    unfold returnSlabs
    simp only
    generalize Rings.unlink (⟨⟨sentinels, allocator.memory⟩, rest.length + 1⟩ :
      Rings ElementPool.Threading) block = rings
    have kept := Allocator.giveBlock_interludes
      { allocator with memory := rings.store.memory } source block
    split
    · next gave =>
      rw [gave] at kept
      exact (ih _ _).trans kept
    · next gave =>
      rw [gave] at kept
      exact (ih _ _).trans kept

theorem dropPool_interludes (name : String) :
    (allocator.dropPool name).interludes = allocator.interludes := by
  unfold dropPool
  split
  · rfl
  · simp only [returnSlabs_interludes]
    split <;> rfl

/-! ## The answer to a request -/

/-- How requests serve interludes when at most so many are announced: the innermost has none. -/
def serveAt : Nat → Serve σ
  | 0 => fun allocator _ => ([], allocator)
  | depth + 1 => fun allocator interlude =>
    repeated (fun during => allocAt depth during interlude.pool) interlude.count allocator

variable {allocator} {after : Allocator σ} {name source : String} {block : Nat}
  {outcome : Except Fault Nat}

theorem allocAt_eq (depth : Nat) (allocator : Allocator σ) (name : String) :
    allocAt depth allocator name = allocWith (serveAt depth) allocator name := by
  cases depth <;> rfl

/-- A request that is answered at once. -/
theorem allocAt_settled (sought : allocator.seek name = (.settled outcome, after)) (depth : Nat) :
    allocAt depth allocator name = (.answered [] outcome, after) := by
  rw [allocAt_eq]
  rw [allocWith_eq, sought]

theorem alloc_settled (sought : allocator.seek name = (.settled outcome, after)) :
    allocator.alloc name = (.answered [] outcome, after) :=
  allocAt_settled sought _

/-- What is served between the arrival of a block and its publication: the answers, and what
they lead to. -/
def meanwhile (allocator after : Allocator σ) (source : String) : List Reply × Allocator σ :=
  after.runInterlude (serveAt allocator.interludes.size) source

/-- A request that needs a block is answered once the block is published. -/
theorem alloc_awaiting (sought : allocator.seek name = (.awaiting source block, after)) :
    allocator.alloc name = (.answered (allocator.meanwhile after source).1
        ((allocator.meanwhile after source).2.publish name block).1,
      ((allocator.meanwhile after source).2.publish name block).2) := by
  unfold alloc
  rw [allocAt_eq]
  rw [allocWith_eq, sought]
  rfl

end Allocator

namespace World

variable {σ : Type}

/-- What a request consists of: it begins, an interlude is announced no longer, or a
block on its way is carved. -/
def Attends (world : World σ) : Act σ → Prop
  | .request _ => True
  | .outside other => ∃ source, other =
    { world.allocator with interludes := world.allocator.interludes.erase source }
  | .publish window => window ∈ world.windows
  | _ => False

theorem obeys_of_attends {world : World σ} {act : Act σ} (attends : world.Attends act) :
    world.Obeys act := by
  cases act with
  | request name => trivial
  | outside other => trivial
  | publish window => exact attends
  | _ => cases attends

variable [BlockSource σ]

/-- The entry in the books for an answer. -/
def entries (name : String) (outcome : Except Fault Nat) : List (String × Nat) :=
  outcome.toOption.toList.map fun address => (name, address)

theorem map_entries (name : String) (outcome : Except Fault Nat) :
    (entries name outcome).map Prod.snd = outcome.toOption.toList := by
  cases outcome <;> rfl

theorem perform_request {world : World σ} {name : String} {outcome : Except Fault Nat}
    {after : Allocator σ} (sought : world.allocator.seek name = (.settled outcome, after)) :
    world.perform (.request name) =
      { world with allocator := after, live := world.live ++ entries name outcome } := by
  cases outcome with
  | ok address =>
    simp only [perform, sought]
    rfl
  | error fault =>
    simp only [perform, sought]
    rw [show entries name (.error fault) = [] from rfl, List.append_nil]

theorem perform_awaiting {world : World σ} {name source : String} {block : Nat}
    {after : Allocator σ} (sought : world.allocator.seek name = (.awaiting source block, after)) :
    world.perform (.request name) =
      { world with
        allocator := after
        windows := ⟨name, block, ((world.pool? name).map ElementPool.blockSize).getD 0⟩ ::
          world.windows } := by
  simp only [perform, sought]

theorem perform_publish (world : World σ) (window : Window) {outcome : Except Fault Nat}
    {after : Allocator σ}
    (published : world.allocator.publish window.pool window.region.start = (outcome, after)) :
    world.perform (.publish window) =
      { world with
        allocator := after
        live := world.live ++ entries window.pool outcome
        windows := world.windows.erase window } := by
  cases outcome with
  | ok address =>
    simp only [perform, published]
    rfl
  | error fault =>
    simp only [perform, published]
    rw [show entries window.pool (.error fault) = [] from rfl, List.append_nil]

/-- What happens among pools and sources announces nothing and forgets nothing. -/
theorem perform_interludes (world : World σ) {act : Act σ} (plain : ∀ other, act ≠ .outside other) :
    (world.perform act).allocator.interludes = world.allocator.interludes := by
  cases act with
  | create => rfl
  | setUp name count => exact world.allocator.initPool_interludes name count
  | request name =>
    have kept := world.allocator.seek_interludes name
    cases sought : world.allocator.seek name with
    | mk progress after =>
      rw [sought] at kept
      cases progress with
      | settled outcome =>
        rw [perform_request sought]
        exact kept
      | awaiting source block =>
        rw [perform_awaiting sought]
        exact kept
  | publish window =>
    have kept := world.allocator.publish_interludes window.pool window.region.start
    cases published : world.allocator.publish window.pool window.region.start with
    | mk outcome after =>
      rw [published] at kept
      rw [perform_publish world window published]
      exact kept
  | release name address => exact world.allocator.free_interludes name address
  | write => rfl
  | take source =>
    have kept := world.allocator.takeBlock_interludes source
    cases took : world.allocator.takeBlock source with
    | mk outcome after =>
      rw [took] at kept
      cases outcome <;> simpa only [perform, took] using kept
  | give loan =>
    have kept := world.allocator.giveBlock_interludes loan.source loan.region.start
    cases gave : world.allocator.giveBlock loan.source loan.region.start with
    | mk outcome after =>
      rw [gave] at kept
      cases outcome <;> simpa only [perform, gave] using kept
  | drop name => exact world.allocator.dropPool_interludes name
  | outside other => exact absurd rfl (plain other)

theorem run_append (world : World σ) (first second : List (Act σ)) :
    world.run (first ++ second) = (world.run first).run second := by
  induction first generalizing world with
  | nil => rfl
  | cons act rest ih => exact ih (world.perform act)

/-- The sources and the system keep their word in every one of these acts. -/
def Supplied (world : World σ) : List (Act σ) → Prop
  | [] => True
  | act :: rest =>
    (∀ region ∈ world.granted act, world.Fresh region) ∧ (world.perform act).Supplied rest

/-- Nothing but requests is attended to. -/
def AttendsAll (world : World σ) : List (Act σ) → Prop
  | [] => True
  | act :: rest => world.Attends act ∧ (world.perform act).AttendsAll rest

theorem honestRun_of_supplied {world : World σ} {acts : List (Act σ)}
    (supplied : world.Supplied acts) (attends : world.AttendsAll acts) : world.HonestRun acts := by
  induction acts generalizing world with
  | nil => trivial
  | cons act rest ih =>
    exact ⟨⟨supplied.1, obeys_of_attends attends.1⟩, ih supplied.2 attends.2⟩

theorem attendsAll_append {world : World σ} {first second : List (Act σ)}
    (before : world.AttendsAll first) (behind : (world.run first).AttendsAll second) :
    world.AttendsAll (first ++ second) := by
  induction first generalizing world with
  | nil => exact behind
  | cons act rest ih => exact ⟨before.1, ih before.2 behind⟩

/-- Acts that serve requests: they lead to this allocator, hand out these elements and
leave the other books as they were. -/
structure Serves (world : World σ) (acts : List (Act σ)) (after : Allocator σ)
    (handed : List (String × Nat)) : Prop where
  attends : world.AttendsAll acts
  allocator : (world.run acts).allocator = after
  live : (world.run acts).live = world.live ++ handed
  windows : (world.run acts).windows = world.windows
  lent : (world.run acts).lent = world.lent

theorem Serves.nil (world : World σ) : world.Serves [] world.allocator [] :=
  ⟨trivial, rfl, (List.append_nil _).symm, rfl, rfl⟩

theorem Serves.single {world : World σ} {act : Act σ} {after : Allocator σ}
    {handed : List (String × Nat)} (attends : world.Attends act)
    (performed : world.perform act =
      { world with allocator := after, live := world.live ++ handed }) :
    world.Serves [act] after handed := by
  refine ⟨⟨attends, trivial⟩, ?_, ?_, ?_, ?_⟩
  · show (world.perform act).allocator = after
    rw [performed]
  · show (world.perform act).live = _
    rw [performed]
  · show (world.perform act).windows = _
    rw [performed]
  · show (world.perform act).lent = _
    rw [performed]

theorem Serves.append {world : World σ} {first second : List (Act σ)} {middle last : Allocator σ}
    {early late : List (String × Nat)} (before : world.Serves first middle early)
    (behind : (world.run first).Serves second last late) :
    world.Serves (first ++ second) last (early ++ late) := by
  refine ⟨attendsAll_append before.attends behind.attends, ?_, ?_, ?_, ?_⟩
  · rw [run_append]
    exact behind.allocator
  · rw [run_append, behind.live, before.live, List.append_assoc]
  · rw [run_append, behind.windows, before.windows]
  · rw [run_append, behind.lent, before.lent]

/-- Serving requests announces nothing. -/
theorem announces_kept {such : String → Prop} {world : World σ} {acts : List (Act σ)}
    (attends : world.AttendsAll acts) (announces : world.allocator.Announces such) :
    (world.run acts).allocator.Announces such := by
  -- By induction on the run: an act can withdraw an announcement, never make one.
  induction acts generalizing world with
  | nil => exact announces
  | cons act rest ih =>
    obtain ⟨here, later⟩ := attends
    refine ih later ?_
    unfold Allocator.Announces at announces ⊢
    cases act with
    | request name =>
      rwa [world.perform_interludes fun _ absurd => by cases absurd]
    | publish window =>
      rwa [world.perform_interludes fun _ absurd => by cases absurd]
    | outside other =>
      obtain ⟨source, rfl⟩ := here
      exact fun entry member => announces entry (List.mem_filter.1 member).1
    | _ => cases here

/-- A request that waits for its block is a run around the one in its window. -/
theorem Serves.around {world : World σ} {name source : String} {block : Nat}
    {acts : List (Act σ)} {after middle last : Allocator σ} {handed : List (String × Nat)}
    {outcome : Except Fault Nat}
    (sought : world.allocator.seek name = (.awaiting source block, after))
    (inside : (world.perform (.request name)).Serves acts middle handed)
    (published : middle.publish name block = (outcome, last)) :
    ∃ window : Window, window.pool = name ∧
      world.Serves (.request name :: (acts ++ [.publish window])) last
        (handed ++ entries name outcome) := by
  let window : Window := ⟨name, block, ((world.pool? name).map ElementPool.blockSize).getD 0⟩
  have begun : world.perform (.request name) =
      { world with allocator := after, windows := window :: world.windows } :=
    perform_awaiting sought
  have whole : world.run (.request name :: (acts ++ [.publish window])) =
      ((world.perform (.request name)).run acts).perform (.publish window) := by
    rw [run, run_append]
    rfl
  rw [← inside.allocator] at published
  rw [perform_publish _ window published] at whole
  refine ⟨window, rfl, ⟨trivial, attendsAll_append inside.attends ⟨?_, trivial⟩⟩, ?_, ?_, ?_, ?_⟩
  · show window ∈ ((world.perform (.request name)).run acts).windows
    rw [inside.windows, begun]
    exact List.mem_cons_self
  · rw [whole]
  · rw [whole, inside.live, begun, List.append_assoc]
  · rw [whole, inside.windows, begun]
    exact List.erase_cons_head _ _
  · rw [whole, inside.lent, begun]

section only

variable {such : String → Prop}

/-- What was done is a run that serves requests of such pools and hands out these addresses. -/
def ServesOn (world : World σ) (such : String → Prop) (addresses : List Nat)
    (after : Allocator σ) : Prop :=
  ∃ acts handed, world.Serves acts after handed ∧ handed.map Prod.snd = addresses ∧
    Act.Only such acts

theorem ServesOn.nil (world : World σ) : world.ServesOn such [] world.allocator :=
  ⟨[], [], .nil world, rfl, fun _ absurd => by cases absurd⟩

/-- Requests served one after the other are a run if each of them is. -/
theorem serves_repeated {request : Allocator σ → Reply × Allocator σ}
    (each : ∀ world : World σ, world.allocator.Announces such →
      world.ServesOn such (request world.allocator).1.addresses (request world.allocator).2)
    (count : Nat) (world : World σ) (announces : world.allocator.Announces such) :
    world.ServesOn such (Reply.addressesAll (Allocator.repeated request count world.allocator).1)
      (Allocator.repeated request count world.allocator).2 := by
  -- By induction on the number of requests; their runs are strung together.
  induction count generalizing world with
  | zero => exact .nil world
  | succ count ih =>
    obtain ⟨acts, handed, serves, addresses, only⟩ := each world announces
    obtain ⟨more, late, servesRest, addressesRest, onlyRest⟩ :=
      ih (world.run acts) (announces_kept serves.attends announces)
    rw [serves.allocator] at servesRest addressesRest
    refine ⟨acts ++ more, handed ++ late, serves.append servesRest, ?_, only.append onlyRest⟩
    rw [List.map_append, addresses, addressesRest]
    rfl

/-- Interludes of such pools are served by runs on such pools. -/
def RunsOn (serve : Allocator.Serve σ) (such : String → Prop) : Prop :=
  ∀ (world : World σ) (interlude : Interlude), world.allocator.Announces such →
    such interlude.pool →
    world.ServesOn such (Reply.addressesAll (serve world.allocator interlude).1)
      (serve world.allocator interlude).2

/-- The interlude of a source is a run if what serves it is. -/
theorem serves_interlude {serve : Allocator.Serve σ} (runs : RunsOn serve such)
    (world : World σ) (source : String) (announces : world.allocator.Announces such) :
    world.ServesOn such (Reply.addressesAll (world.allocator.runInterlude serve source).1)
      (world.allocator.runInterlude serve source).2 := by
  unfold Allocator.runInterlude
  cases announced : world.allocator.interludes.find? source with
  | none => exact .nil world
  | some interlude =>
    -- An interlude is withdrawn before it runs, so it cannot call itself.
    let begun : Allocator σ :=
      { world.allocator with interludes := world.allocator.interludes.erase source }
    have fewer : begun.Announces such :=
      fun entry member => announces entry (List.mem_filter.1 member).1
    obtain ⟨acts, handed, serves, addresses, only⟩ := runs (world.perform (.outside begun))
      interlude fewer (announces _ (Table.mem_of_find? announced))
    refine ⟨.outside begun :: acts, handed, ⟨⟨⟨source, rfl⟩, serves.attends⟩,
      serves.allocator, serves.live, serves.windows, serves.lent⟩, addresses, only.cons ?_⟩
    exact fun _ absurd => by cases absurd

/-- A request is a run if what serves its interlude is, and what it answers is live then. -/
theorem serves_allocWith {serve : Allocator.Serve σ} (runs : RunsOn serve such)
    (world : World σ) {name : String} (announces : world.allocator.Announces such)
    (known : such name) :
    ∃ acts handed,
      world.Serves acts (Allocator.allocWith serve world.allocator name).2 handed ∧
        handed.map Prod.snd = (Allocator.allocWith serve world.allocator name).1.addresses ∧
        (∀ address, (Allocator.allocWith serve world.allocator name).1.outcome = .ok address →
          (name, address) ∈ handed) ∧ Act.Only such acts := by
  have mine : ∀ other, (Act.request name : Act σ).Concerns other → such other := by
    rintro other rfl
    exact known
  have listed {outcome : Except Fault Nat} {address : Nat} (answered : outcome = .ok address) :
      (name, address) ∈ entries name outcome := by
    rw [answered]
    exact List.mem_singleton_self _
  rw [Allocator.allocWith_eq]
  cases sought : world.allocator.seek name with
  | mk progress after =>
    cases progress with
    | settled outcome =>
      exact ⟨[.request name], entries name outcome, .single trivial (perform_request sought),
        map_entries name outcome, fun address answered => listed answered,
        .cons mine fun _ absurd => by cases absurd⟩
    | awaiting source block =>
      -- The request, what the interlude does meanwhile, and the publication make up the run.
      have here : (world.perform (.request name)).allocator = after := by
        rw [perform_awaiting sought]
      have still : (world.perform (.request name)).allocator.Announces such := by
        unfold Allocator.Announces
        rw [world.perform_interludes fun _ absurd => by cases absurd]
        exact announces
      obtain ⟨acts, handed, serves, addresses, only⟩ :=
        serves_interlude runs (world.perform (.request name)) source still
      rw [here] at serves addresses
      cases served : after.runInterlude serve source with
      | mk replies middle =>
        simp only [served] at serves addresses ⊢
        cases published : middle.publish name block with
        | mk outcome last =>
          obtain ⟨window, rfl, whole⟩ := serves.around sought published
          refine ⟨_, _, whole, ?_, fun address answered => ?_,
            .cons mine (only.append (.cons mine fun _ absurd => by cases absurd))⟩
          · rw [List.map_append, map_entries, addresses]
            rfl
          · exact List.mem_append_right _ (listed answered)

/-- Every request, with its interludes and theirs, is a run on the pools it is announced for. -/
theorem serves_allocAt_only (depth : Nat) (world : World σ) {name : String}
    (announces : world.allocator.Announces such) (known : such name) :
    ∃ acts handed,
      world.Serves acts (Allocator.allocAt depth world.allocator name).2 handed ∧
        handed.map Prod.snd = (Allocator.allocAt depth world.allocator name).1.addresses ∧
        (∀ address, (Allocator.allocAt depth world.allocator name).1.outcome = .ok address →
          (name, address) ∈ handed) ∧ Act.Only such acts := by
  induction depth generalizing world name with
  | zero => exact serves_allocWith (fun world _ _ _ => .nil world) world announces known
  | succ depth ih =>
    refine serves_allocWith (fun world interlude announces known => ?_) world announces known
    refine serves_repeated (fun world announces => ?_) interlude.count world announces
    obtain ⟨acts, handed, serves, addresses, -, only⟩ := ih world announces known
    exact ⟨acts, handed, serves, addresses, only⟩

end only

/-- Every request, with its interludes and theirs, is a run. -/
theorem serves_allocAt (depth : Nat) (world : World σ) (name : String) :
    ∃ acts handed,
      world.Serves acts (Allocator.allocAt depth world.allocator name).2 handed ∧
        handed.map Prod.snd = (Allocator.allocAt depth world.allocator name).1.addresses ∧
        ∀ address, (Allocator.allocAt depth world.allocator name).1.outcome = .ok address →
          (name, address) ∈ handed := by
  obtain ⟨acts, handed, serves, addresses, mine, -⟩ :=
    @serves_allocAt_only σ _ (fun _ => True) depth world name (fun _ _ => trivial) trivial
  exact ⟨acts, handed, serves, addresses, mine⟩

end World

end SlabAllocator
