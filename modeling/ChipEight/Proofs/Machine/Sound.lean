import ChipEight.Machine.Execute
import ChipEight.Proofs.Checked.Frame

/-
  What holds of a machine at all times.

  The program counter, the index and all return addresses
  point into memory, the font sheet is in its place, and a
  pixel is zero or one. The parts support each other: a
  return jumps to an address that a call took from the
  counter, and every instruction that computes an address
  wraps it.

  Key definitions include:
    * `ChipEight.Processor.Sound`
    * `ChipEight.Machine.Sound`

  Main declarations:
    * `ChipEight.Machine.sound_initial`
    * `ChipEight.Machine.Sound.execute`
-/

namespace ChipEight

------------------------------------------------------------
-- Processors
------------------------------------------------------------

/- Whether all addresses kept in registers are in memory. -/
structure Processor.Sound (p : Processor) : Prop where
  counter : p.pc.toNat < 4096
  index : p.index.toNat < 4096
  depth : p.stack.depth ≤ 16
  returns : ∀ a ∈ p.stack.toList, a.toNat < 4096

namespace Processor

/- A processor starts with its addresses in memory. -/
theorem sound_initial : initial.Sound where
  counter := by decide
  index := by decide
  depth := by decide
  returns := by
    intro a ha
    cases ha

namespace Sound

variable {p : Processor}

/- A register holds no address. -/
theorem set
    (h : p.Sound)
    (x : Register)
    (value : UInt8) :
    (p.set x value).Sound where
  counter := h.counter
  index := h.index
  depth := h.depth
  returns := h.returns

/- A jump wraps its target. -/
theorem jump
    (h : p.Sound)
    (a : UInt16) :
    (p.jump a).Sound where
  counter := toNat_wrap_lt a
  index := h.index
  depth := h.depth
  returns := h.returns

/- The counter wraps around at the end of memory. -/
theorem advance
    (h : p.Sound)
    (distance : UInt16) :
    (p.advance distance).Sound :=
  h.jump (p.pc + distance)

/- The index can be set to an address in memory. -/
theorem setIndex
    (h : p.Sound)
    {a : UInt16}
    (ha : a.toNat < 4096) :
    ({ p with index := a } : Processor).Sound where
  counter := h.counter
  index := ha
  depth := h.depth
  returns := h.returns

/- An address in memory can be returned to. -/
theorem push
    {after : Processor}
    {a : UInt16}
    (h : p.Sound)
    (ha : a.toNat < 4096)
    (hPush : p.push a = .ok after) :
    after.Sound := by
  unfold Processor.push at hPush
  split at hPush
  · cases hPush
  · rename_i stack hStack
    cases hPush
    refine ⟨h.counter, h.index, stack.length_le, ?_⟩
    intro b hb
    rw [CallStack.toList_push? hStack] at hb
    rcases List.mem_append.mp hb with hOld | hNew
    · exact h.returns b hOld
    · rw [List.mem_singleton.mp hNew]
      exact ha

/- What is left after a return can be returned to. -/
theorem pop
    {after : Processor}
    {a : UInt16}
    (h : p.Sound)
    (hPop : p.pop = .ok (a, after)) :
    after.Sound := by
  unfold Processor.pop at hPop
  split at hPop
  · cases hPop
  · rename_i newest stack hStack
    cases hPop
    refine ⟨h.counter, h.index, stack.length_le, ?_⟩
    intro b hb
    apply h.returns
    rw [CallStack.toList_pop? hStack]
    exact List.mem_append_left _ hb

end Sound

end Processor

------------------------------------------------------------
-- Machines
------------------------------------------------------------

/- Whether all is in place in a machine. -/
structure Machine.Sound (m : Machine) : Prop where
  processor : m.processor.Sound
  font : m.memory.HasFont
  pixels :
    ∀ x y, m.frame.byte x y = 0 ∨ m.frame.byte x y = 1

namespace Machine

/- A number below the end of memory is kept by an address. -/
theorem toNat_ofNat_lt
    {n : Nat}
    (h : n < 4096) :
    (UInt16.ofNat n).toNat < 4096 := by
  rw [UInt16.toNat_ofNat']
  omega

/- A machine starts with all in place. -/
theorem sound_initial (seed : UInt64) :
    (initial seed).Sound where
  processor := Processor.sound_initial
  font := Memory.hasFont_initial
  pixels := Frame.byte_eq_zero_or_one _

namespace Sound

variable {m : Machine}

/- The processor can be changed for a sound one. -/
theorem setProcessor
    (h : m.Sound)
    {p : Processor}
    (hp : p.Sound) :
    ({ m with processor := p } : Machine).Sound where
  processor := hp
  font := h.font
  pixels := h.pixels

/- Memory can be changed behind the font sheet. -/
theorem setMemory
    (h : m.Sound)
    {memory : Memory}
    (hFont : memory.HasFont) :
    ({ m with memory := memory } : Machine).Sound where
  processor := h.processor
  font := hFont
  pixels := h.pixels

/- Any timers will do. -/
theorem setTimers
    (h : m.Sound)
    (timers : Timers) :
    ({ m with timers := timers } : Machine).Sound where
  processor := h.processor
  font := h.font
  pixels := h.pixels

/- Any picture will do. -/
theorem setFrame
    (h : m.Sound)
    (frame : Frame) :
    ({ m with frame := frame } : Machine).Sound where
  processor := h.processor
  font := h.font
  pixels := frame.byte_eq_zero_or_one

/- Any source of random bytes will do. -/
theorem setGenerator
    (h : m.Sound)
    (generator : Generator) :
    ({ m with generator := generator } : Machine).Sound where
  processor := h.processor
  font := h.font
  pixels := h.pixels

/- Any byte can be put into a register. -/
theorem setReg
    (h : m.Sound)
    (x : Register)
    (value : UInt8) :
    (m.setReg x value).Sound :=
  h.setProcessor (h.processor.set x value)

/- The flag is a register. -/
theorem setFlag
    (h : m.Sound)
    (on : Bool) :
    (m.setFlag on).Sound :=
  h.setReg _ _

/- The index can be set to an address in memory. -/
theorem setIndex
    (h : m.Sound)
    {a : UInt16}
    (ha : a.toNat < 4096) :
    (m.setIndex a).Sound :=
  h.setProcessor (h.processor.setIndex ha)

/- A jump leads into memory. -/
theorem jump
    (h : m.Sound)
    (a : UInt16) :
    (m.jump a).Sound :=
  h.setProcessor (h.processor.jump a)

/- Passing a word stays in memory. -/
theorem passWord (h : m.Sound) : m.passWord.Sound :=
  h.setProcessor (h.processor.advance 2)

------------------------------------------------------------
-- Instructions
------------------------------------------------------------

/- Operators leave their results in registers. -/
theorem combine
    (h : m.Sound)
    (op : Operator)
    (x y : Register) :
    (m.combine op x y).Sound := by
  cases op with
  | move => exact h.setReg _ _
  | or => exact h.setReg _ _
  | and => exact h.setReg _ _
  | xor => exact h.setReg _ _
  | add => exact (h.setReg _ _).setFlag _
  | subtract => exact (h.setReg _ _).setFlag _
  | shiftRight => exact (h.setFlag _).setReg _ _
  | subtractFrom => exact (h.setReg _ _).setFlag _
  | shiftLeft => exact (h.setFlag _).setReg _ _

/- Stored bytes spare the font sheet. -/
theorem store
    (h : m.Sound)
    (instruction : Instruction) :
    (m.store instruction).Sound :=
  h.setMemory (h.font.writeAll _)

/- Filling registers one after another is sound. -/
theorem restore
    (h : m.Sound)
    (x : Register) :
    (m.restore x).Sound := by
  refine List.foldlRecOn _ _ h ?_
  intro n hSound r _
  exact hSound.setReg _ _

/- A call remembers an address in memory. -/
theorem call
    {after : Machine}
    {a : UInt16}
    (h : m.Sound)
    (hCall : m.call a = .ok after) :
    after.Sound := by
  unfold Machine.call at hCall
  split at hCall
  · cases hCall
  · rename_i pushed hPush
    cases hCall
    have hPushed :=
      h.processor.push h.processor.counter hPush
    exact h.setProcessor (hPushed.jump a)

/- A return goes on in memory. -/
theorem returnFromCall
    {after : Machine}
    (h : m.Sound)
    (hReturn : m.returnFromCall = .ok after) :
    after.Sound := by
  unfold Machine.returnFromCall at hReturn
  split at hReturn
  · cases hReturn
  · cases hReturn
  · rename_i a popped hPop
    cases hReturn
    have hPopped := h.processor.pop hPop
    exact h.setProcessor (hPopped.jump a)

/- Sprites are drawn on the picture and flagged. -/
theorem draw
    (h : m.Sound)
    (x y : Register)
    (rows : Nat) :
    (m.draw x y rows).Sound :=
  (h.setFrame _).setFlag _

/-
  Every instruction that is carried out leaves all in place.
-/
theorem execute
    {after : Machine}
    {held : Bool}
    {instruction : Instruction}
    (h : m.Sound)
    (hRun : m.execute held instruction = .ok after) :
    after.Sound := by
  cases instruction with
  | clearScreen =>
      cases hRun
      exact h.setFrame _
  | returnFromCall =>
      exact h.returnFromCall hRun
  | hostRoutine target =>
      cases hRun
      exact h
  | jump target =>
      cases hRun
      exact h.jump _
  | call target =>
      exact h.call hRun
  | skipIf test =>
      cases hRun
      split
      · exact h.passWord
      · exact h
  | load x byte =>
      cases hRun
      exact h.setReg _ _
  | addByte x byte =>
      cases hRun
      exact (h.setReg _ _).setFlag _
  | combine op x y =>
      cases hRun
      exact h.combine _ _ _
  | setIndex target =>
      cases hRun
      exact h.setIndex (toNat_ofNat_lt target.isLt)
  | jumpBy target =>
      cases hRun
      exact h.jump _
  | random x mask =>
      cases hRun
      exact (h.setGenerator _).setReg _ _
  | draw x y rows =>
      cases hRun
      exact h.draw _ _ _
  | readDelay x =>
      cases hRun
      exact h.setReg _ _
  | awaitKey x =>
      cases hRun
      exact h
  | setDelay x =>
      cases hRun
      exact h.setTimers _
  | setSound x =>
      cases hRun
      exact h.setTimers _
  | addIndex x =>
      cases hRun
      exact h.setIndex (Processor.toNat_wrap_lt _)
  | pointAtGlyph x =>
      cases hRun
      exact h.setIndex
        (toNat_ofNat_lt (Nat.mod_lt _ (by decide)))
  | storeDecimal x =>
      cases hRun
      exact h.store _
  | saveRegisters x =>
      cases hRun
      exact h.store _
  | restoreRegisters x =>
      cases hRun
      exact h.restore _

end Sound

end Machine

end ChipEight
