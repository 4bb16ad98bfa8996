import SlabAllocator.Session.Command

/-! Carrying out commands. -/
namespace SlabAllocator.Session

/-- Carries out a command. -/
def perform (session : Session) : Command → Answer × Session
  | .look => (.nothing, session)
  | .budget bytes => (.done, session.setBudget bytes)
  | .blockNew name blockSize => (.done, session.setSource name (.ofPool (.new blockSize)))
  | .blockWithCache name blockSize count =>
    Answer.settled (session.setUpBlocks name (.new blockSize) count)
  | .blockInit name count =>
    match session.blockPool? name with
    | some pool => Answer.settled (session.setUpBlocks name pool count)
    | none => (.nothing, session)
  | .blockDrop name =>
    match session.blockPool? name with
    | some pool => (.done, session.dropBlocks name pool)
    | none => (.nothing, session)
  | .blockAlloc name count =>
    let (outcomes, after) := session.takeBlocks name count
    (.blocks outcomes, after)
  | .blockFree name pointers =>
    let (outcomes, after) := giveAll (fun session block => session.giveBlock name block) session
      (pointers.map (Pointer.resolve session))
    (.releases outcomes, after)
  | .blockContains name pointers =>
    Answer.about (session.blockPool? name) (fun pool =>
      .flags (pointers.map fun pointer => pool.contains (pointer.resolve session))) session
  | .blockStats name =>
    Answer.about (session.blockPool? name) (fun pool => .blockStats pool.stats) session
  | .blockDescribe name =>
    Answer.about (session.blockPool? name) (fun pool => .text pool.describe) session
  | .shelfNew name blockSize slots order =>
    let shelf := Shelf.new session.nextShelfStart blockSize slots (order.getD (List.range slots))
    (.done, session.setSource name (.ofShelf shelf))
  | .shelfRefuse name refusing =>
    match session.shelf? name with
    | some shelf => (.done, session.setSource name (.ofShelf { shelf with refusing := refusing }))
    | none => (.nothing, session)
  | .announce name pool count => (.done, session.announce name ⟨pool, count⟩)
  | .poolNew name source elementSize config =>
    (.done, session.addPool name source (.new (session.blockSizeOf source) elementSize config))
  | .poolWithCache name source elementSize count =>
    Answer.settled (session.setUpPool name source
      (.new (session.blockSizeOf source) elementSize .standard) count)
  | .poolInit name count => Answer.settled (session.initPool name count)
  | .poolAlloc name count =>
    let (replies, after) := Allocator.repeated (fun session => session.alloc name) count session
    (.elements replies, after)
  | .poolFree name pointers =>
    let (outcomes, after) := giveAll (fun session address => session.free name address) session
      (pointers.map (Pointer.resolve session))
    (.releases outcomes, after)
  | .poolContains name pointers =>
    Answer.about (session.elementPool? name) (fun pool =>
      .flags (pointers.map fun pointer => pool.containsResident (pointer.resolve session))) session
  | .poolWrite _ pointer first last byte =>
    (.done, session.fill (pointer.resolve session + first) (last - first) byte)
  | .poolRead _ pointer first last =>
    (.bytes (session.memory.bytes (pointer.resolve session + first) (last - first)), session)
  | .poolStats name =>
    Answer.about ((session.elementPool? name).bind fun pool => pool.stats? session.memory)
      .poolStats session
  | .poolConfig name =>
    Answer.about (session.elementPool? name) (fun pool => .text pool.config.describe) session
  | .poolDescribe name =>
    Answer.about (session.elementPool? name) (fun pool => .text pool.describe) session
  | .poolDrop name =>
    match session.pools.find? name with
    | none => (.nothing, session)
    | some tenant =>
      let after := session.dropPool name
      (.sourceAfter (after.sources.find? tenant.source), after)

/-- What is seen of a command: its answer and the session after it, whose journal
holds what the command has noted down. -/
structure Outcome where
  answer : Answer
  session : Session

/-- Carries out a command with an empty journal. -/
def step (session : Session) (command : Command) : Outcome :=
  let (answer, after) := session.freshJournal.perform command
  ⟨answer, after⟩

/-- Carries out commands one after the other: what is seen of each, and the
session at the end. -/
def run (session : Session) : List Command → List Outcome × Session
  | [] => ([], session)
  | command :: rest =>
    let outcome := session.step command
    let (outcomes, last) := run outcome.session rest
    (outcome :: outcomes, last)

/-- The session after its element pools were dropped, oldest first. -/
def close (session : Session) : Session :=
  session.freshJournal.dropPools

/-- Puts a byte before bytes of which neighbouring equal ones are counted together. -/
def countByte (byte : UInt8) : List (Nat × UInt8) → List (Nat × UInt8)
  | [] => [(1, byte)]
  | (count, value) :: others =>
    if byte = value then (count + 1, value) :: others else (1, byte) :: (count, value) :: others

/-- Neighbouring equal bytes counted together. -/
def byteRuns (bytes : List UInt8) : List (Nat × UInt8) :=
  bytes.foldr countByte []

/-- The bytes that were counted together. -/
def expand (counted : List (Nat × UInt8)) : List UInt8 :=
  counted.flatMap fun (count, value) => List.replicate count value

theorem expand_countByte (byte : UInt8) (counted : List (Nat × UInt8)) :
    expand (countByte byte counted) = byte :: expand counted := by
  cases counted with
  | nil => rfl
  | cons head others =>
    obtain ⟨count, value⟩ := head
    simp only [countByte]
    split
    · rename_i same
      simp [expand, List.replicate_succ, same]
    · simp [expand]

/-- Counting neighbours together loses nothing. -/
theorem expand_byteRuns (bytes : List UInt8) : expand (byteRuns bytes) = bytes := by
  induction bytes with
  | nil => rfl
  | cons byte rest ih => rw [byteRuns, List.foldr_cons, expand_countByte, ← byteRuns, ih]

end SlabAllocator.Session
