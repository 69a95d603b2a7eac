import ZoneServer.Name.Basic
import ZoneServer.Wire.Buffer
import ZoneServer.Wire.Cursor
import ZoneServer.Wire.Sequence

/-!
# Names in messages

In a message each label is preceded by its length in one octet, and a zero octet ends the name. Instead
of its remaining labels a name may have a pointer: two octets whose top bits are set, the rest of which
is a place in the datagram where the name goes on. A pointer must point before itself and not where the
name has already been, so following pointers comes to an end.

Names are written in full. Reading one is a `Walk` through the datagram: `Walk.step` reads one label or
follows one pointer, and `Walk.run` takes steps until the name is complete. Every step uses up some of
`Walk.room`, since a label adds to a length that is bounded and a pointer adds a target to finitely many.
-/

namespace ZoneServer

/-- Writes a label and, before it, its length. -/
def Label.encode (label : Label) : Encoder Unit := do
  Encoder.uint8 (UInt8.ofNat label.octetLength)
  Encoder.octets label.octets

/-- Writes a name in full. A name that may not be written is refused before anything is written. -/
def Name.encode (name : Name) : Encoder Unit := do
  Encoder.check name.check
  Encoder.each Label.encode name.labels
  Encoder.uint8 0

/-- How many places a pointer can point to, since it has 14 bits for the place. -/
def pointerSpace : Nat := 16384

/-- The place that the two octets of a pointer give: the lower 14 of their 16 bits. -/
def pointerTarget (high low : UInt8) : Nat := high.toNat % 64 * 256 + low.toNat

/-- No pointer reaches beyond its space. -/
theorem pointerTarget_lt (high low : UInt8) : pointerTarget high low < pointerSpace := by
  have hlow : low.toNat < 256 := low.toNat_lt
  have hhigh : high.toNat % 64 < 64 := Nat.mod_lt _ (by decide)
  simp only [pointerTarget, pointerSpace]
  omega

/-- A name that has been read in part. -/
structure Walk where
  /-- The labels so far. -/
  labels : List Label
  /-- How many octets the labels so far take, with a terminator. -/
  encodedLength : Nat
  /-- The place after the first pointer, where reading goes on after the name. -/
  resume : Option Nat
  /-- The places that pointers have led to. -/
  visited : List Nat
  deriving Repr, Inhabited

namespace Walk

/-- Before anything is read. -/
def start : Walk := ⟨[], 1, none, []⟩

/-- What one step comes to. -/
inductive Progress where
  /-- The name is complete. -/
  | finished
  /-- There is more of the name to read. -/
  | onward (walk : Walk)

/-- Adds the label that some octets spell, if the name does not become too long by it. -/
def addLabel (walk : Walk) (os : Octets) : Decoder Progress :=
  if walk.encodedLength + os.length + 1 ≤ maxNameLength then
    pure (.onward
      { walk with
        labels := walk.labels ++ [Label.ofOctets os]
        encodedLength := walk.encodedLength + os.length + 1 })
  else throw .nameTooLong

/-- Follows a pointer that stands at `place`, if it points back to where the walk has not been. -/
def jump (walk : Walk) (place target : Nat) : Decoder Progress := do
  let here ← Decoder.position
  if target < place ∧ target ∉ walk.visited then
    Decoder.seek target
    return .onward
      { walk with resume := walk.resume <|> some here, visited := target :: walk.visited }
  else throw .invalidPointer

/-- Reads the terminator, one label or one pointer. -/
def step (walk : Walk) : Decoder Progress := do
  let place ← Decoder.position
  let first ← Decoder.uint8
  if first.toNat = 0 then return .finished
  else if first.toNat ≤ maxLabelLength then
    let os ← Decoder.octets first.toNat
    if os.all fun o => o.toNat < 128 then walk.addLabel os
    else throw .invalidLabel
  else if 192 ≤ first.toNat then
    let low ← Decoder.uint8
    walk.jump place (pointerTarget first low)
  else throw .invalidLabel

/-- The places that pointers could still lead to. -/
def unvisited (walk : Walk) : Nat := (List.range pointerSpace).countP (· ∉ walk.visited)

/-- What is left of the length that a name may have and of the places that pointers could lead to. -/
def room (walk : Walk) : Nat := maxNameLength - walk.encodedLength + walk.unvisited

/-- Fewer elements satisfy a property that is narrower by one of them at least. -/
theorem countP_lt_countP {α : Type} {p q : α → Bool} {l : List α} {a : α} (ha : a ∈ l)
    (hq : ∀ b, q b = true → p b = true) (hpa : p a = true) (hqa : q a = false) :
    l.countP q < l.countP p := by
  induction l with
  | nil => simp at ha
  | cons b l ih =>
    have hle : l.countP q ≤ l.countP p := List.countP_mono_left fun c _ => hq c
    rw [List.countP_cons, List.countP_cons]
    rcases List.mem_cons.1 ha with rfl | ha
    · simp only [hpa, hqa, if_true]
      simp
      omega
    · have hlt := ih ha
      have hb := hq b
      split <;> split <;> grind

/-- Adding a label uses up room. -/
theorem room_addLabel {walk next : Walk} {os : Octets} {c c' : Cursor}
    (h : walk.addLabel os c = .ok (.onward next) c') : next.room < walk.room := by
  unfold addLabel at h
  split at h
  · rename_i hle
    cases h
    simp only [room, unvisited]
    omega
  · cases h

/-- Following a pointer uses up room. -/
theorem room_jump {walk next : Walk} {place target : Nat} {c c' : Cursor}
    (htarget : target < pointerSpace)
    (h : walk.jump place target c = .ok (.onward next) c') : next.room < walk.room := by
  unfold jump at h
  obtain ⟨_, _, hhere, h⟩ := Wire.bind_eq_ok.1 h
  cases hhere
  split at h
  · rename_i hfresh
    obtain ⟨_, _, _, h⟩ := Wire.bind_eq_ok.1 h
    cases h
    simp only [room, unvisited]
    have : (List.range pointerSpace).countP (fun t => decide (t ∉ target :: walk.visited)) <
        (List.range pointerSpace).countP (fun t => decide (t ∉ walk.visited)) := by
      apply countP_lt_countP (List.mem_range.2 htarget)
      · intro b hb
        simp_all
      · simpa using hfresh.2
      · simp
    omega
  · cases h

/-- Every step that does not complete the name uses up room. -/
theorem room_step {walk next : Walk} {c c' : Cursor}
    (h : walk.step c = .ok (.onward next) c') : next.room < walk.room := by
  unfold step at h
  obtain ⟨_, _, _, h⟩ := Wire.bind_eq_ok.1 h
  obtain ⟨_, _, _, h⟩ := Wire.bind_eq_ok.1 h
  split at h
  · cases h
  · split at h
    · obtain ⟨_, _, _, h⟩ := Wire.bind_eq_ok.1 h
      split at h
      · exact room_addLabel h
      · cases h
    · split at h
      · obtain ⟨_, _, _, h⟩ := Wire.bind_eq_ok.1 h
        exact room_jump (pointerTarget_lt _ _) h
      · cases h

/-- Takes steps until the name is complete, and then goes back to the place after the first pointer. -/
def run (walk : Walk) : Decoder Name := fun c =>
  match _h : walk.step c with
  | .error cause c' => .error cause c'
  | .ok .finished c' => .ok ⟨walk.labels⟩ { c' with position := walk.resume.getD c'.position }
  | .ok (.onward next) c' => next.run c'
  termination_by walk.room
  decreasing_by exact room_step (by assumption)

end Walk

/-- Reads a name. -/
def Name.decode : Decoder Name := Walk.start.run

end ZoneServer
