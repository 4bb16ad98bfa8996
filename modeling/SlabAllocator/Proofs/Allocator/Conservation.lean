import SlabAllocator.Proofs.Allocator.Supply

/-! Blocks are conserved. What sources hand out and take back is what is received and settled
on the other side: `books_step` says so of one act, and the law is the sum of both sides over
a run. -/
namespace SlabAllocator

open ElementPool

namespace World

section supply

variable {σ : Type} [BlockSource σ] {world : World σ} {act : Act σ}

/-- A pool that ends offers its blocks back in the order they are listed. -/
theorem drop_sources {name : String} {tenant : Tenant}
    (found : world.allocator.pools.find? name = some tenant) :
    (world.perform (.drop name)).allocator.sources =
      (world.allocator.offerAll tenant.source
        (tenant.pool.slabs world.allocator.memory)).2.sources :=
  (Allocator.dropPool_supply found).1

/-- An act that receives nothing deals with sources by offering blocks, one after the other. -/
theorem offers_supply (world : World σ) (act : Act σ) :
    (∃ name, act = .request name) ∨ (∃ source, act = .take source) ∨
    (∃ other, act = .outside other) ∨ world.received act = [] ∧ ∃ source blocks,
      world.offers act = (world.allocator.offerAll source blocks).1 ∧
      (world.perform act).allocator.sources =
        (world.allocator.offerAll source blocks).2.sources := by
  -- An act that offers the blocks of one source, or none, settles with that source alone.
  have offering {act : Act σ} (none : world.received act = []) (only : world.OffersOnly act) :
      world.received act = [] ∧ ∃ source blocks,
        world.offers act = (world.allocator.offerAll source blocks).1 ∧
        (world.perform act).allocator.sources =
          (world.allocator.offerAll source blocks).2.sources := by
    obtain ⟨source, blocks, offered, supply⟩ := only
    exact ⟨none, source, blocks, offered, supply.sources⟩
  cases act with
  | request name => exact .inl ⟨name, rfl⟩
  | take source => exact .inr (.inl ⟨source, rfl⟩)
  | outside other => exact .inr (.inr (.inl ⟨other, rfl⟩))
  | create => exact .inr (.inr (.inr (offering rfl (.nothing rfl ⟨rfl, rfl, rfl⟩))))
  | write => exact .inr (.inr (.inr (offering rfl (.nothing rfl ⟨rfl, rfl, rfl⟩))))
  | setUp name count =>
    refine .inr (.inr (.inr ⟨rfl, "", [], rfl, ?_⟩))
    rcases world.allocator.initPool_cases name count with ⟨fault, answered⟩ | ⟨_, _, -, -, answered⟩ <;>
      simp only [World.perform, answered] <;> rfl
  | publish window => exact .inr (.inr (.inr (offering rfl (.publish world window))))
  | release name address => exact .inr (.inr (.inr (offering rfl (.release world name address))))
  | give loan => exact .inr (.inr (.inr (offering rfl (.give world loan))))
  | drop name =>
    refine .inr (.inr (.inr ⟨rfl, ?_⟩))
    cases found : world.allocator.pools.find? name with
    | none =>
      refine ⟨"", [], by simp only [offers, found]; rfl, ?_⟩
      simp only [World.perform, Allocator.dropPool_absent found]
      rfl
    | some tenant =>
      exact ⟨tenant.source, tenant.pool.slabs world.allocator.memory,
        by simp only [offers, found], drop_sources found⟩

end supply

section books

variable {σ : Type} [BlockSource σ] {world : World (Ledger σ)} {act : Act (Ledger σ)}
  {acts : List (Act (Ledger σ))} {leaks : List (String × Nat)}

/-- The sources keep their word: what they hand out is not outstanding, and nobody else
touches their books. -/
def Fair (world : World (Ledger σ)) (act : Act (Ledger σ)) : Prop :=
  (∀ entry ∈ world.received act, entry.2 ∉ world.allocator.books entry.1) ∧
    match act with
    | .outside other => ∀ source ∈ other.sources.names ++ world.allocator.sources.names,
        other.books source = world.allocator.books source
    | _ => True

/-- The sources keep their word in every one of these acts. -/
def FairRun (world : World (Ledger σ)) : List (Act (Ledger σ)) → Prop
  | [] => True
  | act :: rest => world.Fair act ∧ (world.perform act).FairRun rest

instance (world : World (Ledger σ)) (act : Act (Ledger σ)) : Decidable (world.Fair act) :=
  match act with
  | .outside other => inferInstanceAs (Decidable (_ ∧ ∀ source ∈ other.sources.names ++
      world.allocator.sources.names, other.books source = world.allocator.books source))
  | .create .. | .setUp .. | .request _ | .publish _ | .release .. | .write .. | .take _
  | .give _ | .drop _ => inferInstanceAs (Decidable (_ ∧ True))

instance decideFairRun : ∀ (world : World (Ledger σ)) (acts : List (Act (Ledger σ))),
    Decidable (world.FairRun acts)
  | _, [] => inferInstanceAs (Decidable True)
  | world, act :: rest =>
    have := decideFairRun (world.perform act) rest
    inferInstanceAs (Decidable (_ ∧ _))

/-- What is outstanding at a source is held by somebody or was refused when it was given
back, and not two of these. -/
structure Balanced (world : World (Ledger σ)) (leaks : List (String × Nat)) : Prop where
  outstanding : ∀ source,
    (world.allocator.books source).Perm (blocksAt source (world.held ++ leaks))
  once : ∀ source, (world.allocator.books source).Nodup

/-- **Every block is booked once.** What was outstanding and what is received is outstanding
afterwards or was taken back. -/
theorem books_step (fair : world.Fair act)
    (known : ((world.offers act).map Offer.entry).Subperm world.held)
    (booked : ∀ source, (blocksAt source world.held).Subperm (world.allocator.books source))
    (source : String) :
    (blocksAt source (world.received act) ++ world.allocator.books source).Perm
      ((world.perform act).allocator.books source ++
        blocksAt source (Offer.taken (world.offers act))) := by
  rcases world.offers_supply act with ⟨name, rfl⟩ | ⟨supplier, rfl⟩ | ⟨other, rfl⟩ |
    ⟨none, supplier, blocks, offered, supply⟩
  · refine List.Perm.trans ?_ (.of_eq (List.append_nil _).symm)
    cases sought : world.allocator.seek name with
    | mk progress after =>
      cases progress with
      | settled outcome =>
        rw [perform_request sought]
        simp only [received, sought]
        exact .of_eq (Allocator.books_congr (Allocator.seek_sources sought) source).symm
      | awaiting supplier block =>
        simp only [received, World.perform, sought]
        exact (Allocator.seek_books sought source).symm
  · refine List.Perm.trans ?_ (.of_eq (List.append_nil _).symm)
    cases took : world.allocator.takeBlock supplier with
    | mk outcome after =>
      cases outcome with
      | error fault =>
        simp only [received, World.perform, took]
        exact .of_eq (Allocator.books_congr (Allocator.takeBlock_books_error took) source).symm
      | ok block =>
        simp only [received, World.perform, took]
        exact (Allocator.takeBlock_books took source).symm
  · refine List.Perm.trans (.of_eq ?_) (.of_eq (List.append_nil _).symm)
    show world.allocator.books source = other.books source
    -- A source that neither allocator knows has empty books on both sides.
    by_cases named : source ∈ other.sources.names ++ world.allocator.sources.names
    · exact (fair.2 source named).symm
    · rw [List.mem_append, not_or] at named
      unfold Allocator.books
      rw [Table.find?_eq_none_iff.2 named.1, Table.find?_eq_none_iff.2 named.2]
  -- What is offered is held, and what is held is booked, so the source can cross it off.
  · have listed : blocks.Subperm (world.allocator.books supplier) := by
      rw [offered, Allocator.offerAll_blocks] at known
      have here := (blocksAt_subperm known).trans (booked supplier)
      rwa [blocksAt_map_self] at here
    rw [none, Allocator.books_congr supply, offered]
    exact Allocator.offerAll_books listed source

theorem settled_split (world : World σ) (act : Act σ) :
    (world.settled act).Perm (Offer.taken (world.offers act) ++ world.leaked act) := by
  cases act with
  | give => exact .of_eq (List.append_nil _).symm
  | _ => exact Offer.taken_refused _

/-- An act receives one block at most. -/
theorem received_cases (world : World σ) (act : Act σ) :
    world.received act = [] ∨ ∃ entry, world.received act = [entry] := by
  unfold received
  split
  · split
    · exact .inr ⟨_, rfl⟩
    · exact .inl rfl
  · split
    · exact .inr ⟨_, rfl⟩
    · exact .inl rfl
  · exact .inl rfl

namespace Balanced

omit [BlockSource σ] in
theorem start {allocator : Allocator (Ledger σ)} (blank : ∀ source, allocator.books source = []) :
    (World.start allocator).Balanced [] := by
  refine ⟨fun source => ?_, fun source => ?_⟩
  · show (allocator.books source).Perm _
    rw [blank]
    exact .refl _
  · show (allocator.books source).Nodup
    rw [blank]
    exact List.nodup_nil

/-- Every act of a run in which the sources keep their word leaves the books balanced. -/
theorem perform (balanced : world.Balanced leaks) (sound : world.Sound)
    (honest : world.Honest act) (fair : world.Fair act) :
    (world.perform act).Balanced (leaks ++ world.leaked act) := by
  have booked : ∀ source,
      (blocksAt source world.held).Subperm (world.allocator.books source) := fun source =>
    (blocksAt_subperm (List.sublist_append_left _ leaks).subperm).trans
      (balanced.outstanding source).symm.subperm
  have known := (sound.offers_mine honest).trans (sound.mine_held honest)
  have books := world.books_step fair known booked
  refine ⟨fun source => ?_, fun source => ?_⟩
  · have before := balanced.outstanding source
    have step := blocksAt_perm source (sound.held_step honest)
    have split := blocksAt_perm source (world.settled_split act)
    have mine := books source
    simp only [blocksAt_append] at before step split ⊢
    rw [List.perm_iff_count] at before step split mine ⊢
    -- Before and after agree entry by entry: what arrives is booked, what is taken back is crossed
    -- off, what is refused stays booked and leaks.
    intro block
    have first := before block
    have second := step block
    have third := split block
    have fourth := mine block
    simp only [List.count_append] at first second third fourth ⊢
    omega
  · have fresh : (blocksAt source (world.received act) ++ world.allocator.books source).Nodup := by
      rcases world.received_cases act with none | ⟨⟨supplier, block⟩, one⟩
      · rw [none]
        exact balanced.once source
      · rw [one]
        by_cases same : source = supplier
        · subst same
          rw [blocksAt_cons_self]
          refine List.nodup_cons.2 ⟨?_, balanced.once source⟩
          exact fair.1 (source, block) (by rw [one]; exact List.mem_singleton_self _)
        · rw [blocksAt_cons_of_ne same]
          exact balanced.once source
    exact (List.nodup_append.1 ((books source).nodup_iff.1 fresh)).1

theorem run (balanced : world.Balanced leaks) (sound : world.Sound)
    (honest : world.HonestRun acts) (fair : world.FairRun acts) :
    (world.run acts).Balanced (leaks ++ world.along leaked acts) := by
  induction acts generalizing world leaks with
  | nil =>
    rw [show world.along leaked [] = [] from rfl, List.append_nil]
    exact balanced
  | cons act rest ih =>
    have behind := ih (balanced.perform sound honest.1 fair.1) (sound.perform honest.1) honest.2
      fair.2
    rwa [List.append_assoc] at behind

end Balanced

end books

/-! ## The law -/

section law

variable {σ : Type} [BlockSource σ]

/-- Blocks are conserved over a run. -/
structure Conserved (start : World (Ledger σ)) (acts : List (Act (Ledger σ))) : Prop where
  balanced : (start.run acts).Balanced (start.along leaked acts)
  /-- Every block that was received was let go of once, or is still in somebody's hands. -/
  returned : (start.along received acts).Perm
    ((start.run acts).held ++ start.along settled acts)
  /-- Whatever else an act does, sources notice nothing of it but its offers. -/
  dealt : ∀ act, (∃ name, act = .request name) ∨ (∃ source, act = .take source) ∨
    (∃ other, act = .outside other) ∨ (start.run acts).received act = [] ∧ ∃ source blocks,
      (start.run acts).offers act = ((start.run acts).allocator.offerAll source blocks).1 ∧
      ((start.run acts).perform act).allocator.sources =
        ((start.run acts).allocator.offerAll source blocks).2.sources
  /-- Nobody can offer a block that is not his, or one block twice. -/
  owned : ∀ act, (start.run acts).Honest act →
    (((start.run acts).offers act).map Offer.entry).Subperm ((start.run acts).mine act) ∧
      ((start.run acts).mine act).Subperm (start.run acts).held
  /-- A pool of which nothing is live holds no block. -/
  vacant : ∀ name pool, (start.run acts).pool? name = some pool →
    (∀ address, (name, address) ∉ (start.run acts).live) →
    pool.blocks = [] ∧ pool.slabs (start.run acts).allocator.memory = []
  /-- A pool that ends offers each of its blocks once, in the order of its rings, and what the
  sources are then is what these offers make of them, refused or not. -/
  dropped : ∀ name tenant, (start.run acts).allocator.pools.find? name = some tenant →
    let rows := tenant.pool.partialSlabs (start.run acts).allocator.memory ++
      tenant.pool.fullSlabs (start.run acts).allocator.memory
    tenant.pool.blocks.Perm rows ∧
    ((start.run acts).offers (.drop name)).map Offer.entry =
      rows.map (fun block => (tenant.source, block)) ∧
    ((start.run acts).perform (.drop name)).allocator.sources =
      ((start.run acts).allocator.offerAll tenant.source rows).2.sources

omit [BlockSource σ] in
/-- A pool of which nothing is live has no carved slab. -/
theorem Sound.blocks_vacant {world : World (Ledger σ)} (sound : world.Sound) {name : String}
    {pool : ElementPool} (known : world.pool? name = some pool)
    (vacant : ∀ address, (name, address) ∉ world.live) :
    pool.blocks = [] ∧ pool.slabs world.allocator.memory = [] := by
  obtain ⟨tenant, found, rfl⟩ := found_of_pool? known
  obtain ⟨view, shows, books⟩ := sound.shown name tenant found
  have bare : view.carved = [] := by
    refine List.eq_nil_iff_forall_not_mem.2 fun piece carved => ?_
    obtain ⟨address, live⟩ := shows.sound.exists_live carved
    exact vacant address ((books address).2 ⟨piece, View.mem_of_carved carved, live⟩)
  have none : tenant.pool.slabs world.allocator.memory = [] := by
    rw [shows.slabs_eq, bare]
    rfl
  have blocks := shows.blocks_slabs
  rw [none] at blocks
  exact ⟨blocks.eq_nil, none⟩

/-- **Blocks are conserved.** When all sources begin with empty books and keep their word,
every block a source has outstanding is indexed by one pool, on its way to one, lent, or was
refused when it came back, whatever the sources refuse. -/
theorem blocks_conserved {allocator : Allocator (Ledger σ)} {acts : List (Act (Ledger σ))}
    (blank : ∀ source, allocator.books source = [])
    (honest : (World.start allocator).HonestRun acts)
    (fair : (World.start allocator).FairRun acts) : (World.start allocator).Conserved acts := by
  have begin := Sound.start allocator
  have sound := begin.run honest
  refine ⟨(Balanced.start blank).run begin honest fair, ?_, offers_supply _, fun act here =>
    ⟨sound.offers_mine here, sound.mine_held here⟩, fun name pool known vacant =>
    sound.blocks_vacant known vacant, fun name tenant found => ?_⟩
  · have whole := begin.held_run honest
    rwa [show (World.start allocator).held = [] from rfl, List.append_nil] at whole
  · obtain ⟨view, shows, -⟩ := sound.shown name tenant found
    refine ⟨shows.blocks_slabs, ?_, ?_⟩
    · simp only [offers, found, Allocator.offerAll_blocks]
      rfl
    · exact drop_sources found

end law

/-- The workshop with books for its shelf. -/
def countinghouse : World (Ledger Shelf) :=
  .start { (Allocator.start .zeroed (.budgeted 65536) : Allocator (Ledger Shelf)) with
    sources := ⟨[("shelf", ⟨.new 65536 4096 3 [0, 1, 2], []⟩)]⟩ }

/-- The shelf begins to refuse blocks while two slabs are in use and a block is lent. One of
the slabs loses its last element then, and the block is offered back in vain. -/
def audit : List (Act (Ledger Shelf)) :=
  [.create "wide" "shelf" 4096 2000 .production, .setUp "wide" 0,
    .request "wide", .publish ⟨"wide", 65536, 4096⟩, .request "wide",
    .request "wide", .publish ⟨"wide", 69632, 4096⟩, .take "shelf",
    .outside { (Allocator.start .zeroed (.budgeted 65536) : Allocator (Ledger Shelf)) with
      sources := ⟨[("shelf", ⟨⟨⟨65536, 12288⟩, 4096, [], 3, true⟩, [73728, 69632, 65536]⟩)]⟩ },
    .release "wide" 69728, .give ⟨"shelf", 73728, 4096⟩]

theorem blocks_conserved_audit :
    (countinghouse.run audit).allocator.books "shelf" = [73728, 69632, 65536] ∧
    (countinghouse.run audit).held = [("shelf", 65536), ("shelf", 73728)] ∧
    countinghouse.along leaked audit = [("shelf", 69632)] ∧ countinghouse.Conserved audit := by
  have blank : ∀ source, countinghouse.allocator.books source = [] := by
    intro source
    by_cases same : source = "shelf"
    · subst same
      rfl
    · unfold Allocator.books
      rw [Table.find?_eq_none_iff.2]
      · rfl
      · exact fun named => same (List.mem_singleton.1 named)
  have honest : countinghouse.HonestRun audit := by decide +kernel
  have fair : countinghouse.FairRun audit := by decide +kernel
  exact ⟨by decide +kernel, by decide +kernel, by decide +kernel,
    blocks_conserved blank honest fair⟩

end World

end SlabAllocator
