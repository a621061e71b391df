/-
  The instructions of the machine, with their operands.

  Operands are kept in types that hold exactly the values
  they can take: one of sixteen registers, a row count below
  sixteen, an address below 4096, a byte.

  Key definitions include:
    * `ChipEight.Register`
    * `ChipEight.Address`
    * `ChipEight.Register.ofNat`
    * `ChipEight.Address.ofNat`
    * `ChipEight.Register.flag`
    * `ChipEight.Test`
    * `ChipEight.Operator`
    * `ChipEight.Instruction`
-/

namespace ChipEight

------------------------------------------------------------
-- Operands
------------------------------------------------------------

/- A register `V0` to `VF`. -/
abbrev Register :=
  Fin 16

/- A memory address as an instruction carries it. -/
abbrev Address :=
  Fin 4096

/- The register of a number, which wraps around. -/
def Register.ofNat (n : Nat) : Register :=
  ⟨n % 16, Nat.mod_lt n (by decide)⟩

/- The address of a number, which wraps around. -/
def Address.ofNat (n : Nat) : Address :=
  ⟨n % 4096, Nat.mod_lt n (by decide)⟩

/- The register that moves the target of `Bnnn`. -/
def Register.first : Register :=
  Register.ofNat 0

/-
  The register that receives carries, borrows, bits shifted
  out and collisions.
-/
def Register.flag : Register :=
  Register.ofNat 15

------------------------------------------------------------
-- Instructions
------------------------------------------------------------

/- The condition under which the next word is skipped. -/
inductive Test where
  /- `3xkk`: the register holds the byte. -/
  | isByte (x : Register) (byte : UInt8)
  /- `4xkk`: the register does not hold the byte. -/
  | isNotByte (x : Register) (byte : UInt8)
  /- `5xy0`: the registers hold the same byte. -/
  | same (x y : Register)
  /- `9xy0`: the registers hold different bytes. -/
  | different (x y : Register)
  /- `Ex9E`: the key named by the register is held. -/
  | keyHeld (x : Register)
  /- `ExA1`: the key named by the register is not held. -/
  | keyFree (x : Register)
deriving DecidableEq

/- An operation of two registers that is left in the first. -/
inductive Operator where
  /- `8xy0`: the second register. -/
  | move
  /- `8xy1`: bitwise or. -/
  | or
  /- `8xy2`: bitwise and. -/
  | and
  /- `8xy3`: bitwise exclusive or. -/
  | xor
  /- `8xy4`: the sum, with its carry. -/
  | add
  /- `8xy5`: first less second; the flag says it fits. -/
  | subtract
  /- `8xy6`: half the first; the flag is its lowest bit. -/
  | shiftRight
  /- `8xy7`: second less first; the flag says it fits. -/
  | subtractFrom
  /- `8xyE`: twice the first; the flag is its highest bit. -/
  | shiftLeft
deriving DecidableEq

/- An instruction with its operands. -/
inductive Instruction where
  /- `00E0`: blank the screen. -/
  | clearScreen
  /- `00EE`: go back behind the latest call. -/
  | returnFromCall
  /- `0nnn`: a routine of the host processor, ignored. -/
  | hostRoutine (target : Address)
  /- `1nnn`: go on at the address. -/
  | jump (target : Address)
  /- `2nnn`: go on at the address until a return. -/
  | call (target : Address)
  /- Skip the next word if the test holds. -/
  | skipIf (test : Test)
  /- `6xkk`: set the register to the byte. -/
  | load (x : Register) (byte : UInt8)
  /- `7xkk`: add the byte, with its carry. -/
  | addByte (x : Register) (byte : UInt8)
  /- `8xy_`: combine two registers. -/
  | combine (op : Operator) (x y : Register)
  /- `Annn`: set the index. -/
  | setIndex (target : Address)
  /- `Bnnn`: go on at the address moved by `V0`. -/
  | jumpBy (target : Address)
  /- `Cxkk`: a random byte under a mask. -/
  | random (x : Register) (mask : UInt8)
  /- `Dxyn`: draw the rows at the index. -/
  | draw (x y : Register) (rows : Fin 16)
  /- `Fx07`: read the delay timer. -/
  | readDelay (x : Register)
  /- `Fx0A`: wait for a key press and keep it. -/
  | awaitKey (x : Register)
  /- `Fx15`: set the delay timer. -/
  | setDelay (x : Register)
  /- `Fx18`: set the sound timer. -/
  | setSound (x : Register)
  /- `Fx1E`: move the index by the register. -/
  | addIndex (x : Register)
  /- `Fx29`: set the index to the sprite of the digit. -/
  | pointAtGlyph (x : Register)
  /- `Fx33`: write the three decimal digits at the index. -/
  | storeDecimal (x : Register)
  /- `Fx55`: write the registers up to this one. -/
  | saveRegisters (x : Register)
  /- `Fx65`: read the registers up to this one. -/
  | restoreRegisters (x : Register)
deriving DecidableEq

end ChipEight
