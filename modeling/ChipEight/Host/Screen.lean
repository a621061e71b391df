import ChipEight.Frame.Rgb

/-
  The window: what is asked of the host to open it and to
  bring a picture into it.

  The host is asked step after step. Each step may fail, and
  then nothing more is asked, and what failed is handed on.

  Key definitions include:
    * `ChipEight.ScreenCall`
    * `ChipEight.HostFailure`
    * `ChipEight.Asking`
    * `ChipEight.openScreen`
    * `ChipEight.openCalls`
    * `ChipEight.renderPicture`
    * `ChipEight.renderCalls`
-/

namespace ChipEight

------------------------------------------------------------
-- Calls
------------------------------------------------------------

/- What is asked of the host. -/
inductive ScreenCall where
  /- Open a window of a size. -/
  | openWindow (width height : UInt32)
  /- Paint the window over. -/
  | clear
  /- Bring what was painted to the screen. -/
  | present
  /- Make a texture for a picture. -/
  | makeTexture
  /- Paint a texture of these bytes into the window. -/
  | copyTexture (bytes : List UInt8)
  /- Let nanoseconds pass. -/
  | sleep (nanos : Nat)
deriving DecidableEq

------------------------------------------------------------
-- Asking
------------------------------------------------------------

/- A step that fails, and the reason given. -/
structure HostFailure (σ : Type) where
  step : σ
  reason : String
deriving DecidableEq

/-
  To ask for one thing after another. The calls are put behind
  those made before, and a failure ends the asking.
-/
abbrev Asking (σ : Type) :=
  ExceptT (HostFailure σ) (StateM (Array ScreenCall))

variable {σ : Type}

/- Make a call. -/
def ask (call : ScreenCall) : Asking σ Unit :=
  modify (fun calls => calls.push call)

/- Get past a step, unless it is the one that fails. -/
def getPast
    [DecidableEq σ]
    (failure : Option (HostFailure σ))
    (step : σ) : Asking σ Unit :=
  match failure with
  | none => pure ()
  | some f =>
      if f.step = step then
        throw f
      else
        pure ()

/- What comes of asking, and the calls made by then. -/
def Asking.outcome
    (a : Asking σ Unit)
    (calls : Array ScreenCall) :
    Except (HostFailure σ) Unit × Array ScreenCall :=
  (a.run.run calls).run

------------------------------------------------------------
-- Opening
------------------------------------------------------------

/- The steps of opening a window that may fail. -/
inductive OpenStep where
  | system
  | video
  | window
  | canvas
  | events
deriving DecidableEq

/- A failure to open a window. -/
abbrev OpenFailure :=
  HostFailure OpenStep

/- Open a window in which pixels have a size. -/
def ScreenCall.windowOf (scale : UInt32) : ScreenCall :=
  .openWindow (64 * scale) (32 * scale)

/- Open a window and paint it over. -/
def openScreen
    (scale : UInt32)
    (failure : Option OpenFailure) :
    Asking OpenStep Unit := do
  getPast failure .system
  getPast failure .video
  ask (.windowOf scale)
  getPast failure .window
  getPast failure .canvas
  ask .clear
  ask .present
  getPast failure .events

/- The steps of showing a picture that may fail. -/
inductive RenderStep where
  | make
  | fill
  | copy
deriving DecidableEq

/- A failure to show a picture. -/
abbrev RenderFailure :=
  HostFailure RenderStep

/-
  Show a picture: a texture is made for it, filled with its
  bytes and copied into the window.
-/
def renderPicture
    (padding : Nat)
    (frame : Frame)
    (failure : Option RenderFailure) :
    Asking RenderStep Unit := do
  ask .makeTexture
  getPast failure .make
  let texture := frame.rgbPadded padding
  getPast failure .fill
  getPast failure .copy
  ask (.copyTexture texture)
  ask .present

/- The calls made to show a picture, up to a failure. -/
def renderCalls
    (padding : Nat)
    (frame : Frame)
    (failure : Option RenderFailure) : List ScreenCall :=
  ((renderPicture padding frame failure).outcome
    #[]).2.toList

end ChipEight
