import ReceiptPrinting.Escpos.Command

/-!
# What a printer does with the stream

A printer has a style, and the characters of the row that is not printed yet. A command changes the
style, a line feed prints the row in the style of that moment, and the row is empty again.

* `Machine.step` is one token: the printer after it, and what came out;
* `Machine.run` is a list of tokens, and `run_append` says that it goes through them one by one.
-/

namespace ReceiptPrinting.Escpos

/-- How rows are printed. -/
structure Style where
  align : Align
  size : Size
  bold : Bool
  /-- The code page, by its number; `none` is the one a printer is switched on with. -/
  page : Option UInt8
deriving DecidableEq, Repr

/-- The style a printer has when it is switched on. -/
def Style.initial : Style := ⟨.left, .normal, false, none⟩

/-- At the left, of normal size and not bold; the code page does not matter. -/
def Style.IsPlain (s : Style) : Prop := s.align = .left ∧ s.size = .normal ∧ s.bold = false

/-- What comes out of a printer. -/
inductive Output where
  | row (style : Style) (glyphs : Bytes)
  | cut
  | pulse
deriving DecidableEq, Repr

/-- A printer. -/
structure Machine where
  style : Style
  /-- The characters of the row that is not printed yet. -/
  pending : Bytes
deriving DecidableEq, Repr

namespace Machine

/-- A printer that has just been switched on. -/
def initial : Machine := ⟨.initial, []⟩

/-- What a command does. -/
def obey (m : Machine) : Command → Machine × List Output
  | .reset => (initial, [])
  | .page t => ({ m with style.page := some t }, [])
  | .align a => ({ m with style.align := a }, [])
  | .bold on => ({ m with style.bold := on }, [])
  | .size s => ({ m with style.size := s }, [])
  | .cut => (m, [.cut])
  | .pulse => (m, [.pulse])

/-- What a token does. -/
def step (m : Machine) : Token → Machine × List Output
  | .command c => m.obey c
  | .glyph b => ({ m with pending := m.pending ++ [b] }, [])
  | .feed => ({ m with pending := [] }, [.row m.style m.pending])

/-- What a list of tokens does. -/
def run (m : Machine) : List Token → Machine × List Output
  | [] => (m, [])
  | t :: ts =>
    let (m, out) := m.step t
    let (m, rest) := m.run ts
    (m, out ++ rest)

@[simp] theorem run_nil (m : Machine) : m.run [] = (m, []) := rfl

@[simp] theorem run_cons (m : Machine) (t : Token) (ts : List Token) :
    m.run (t :: ts) = (((m.step t).1.run ts).1, (m.step t).2 ++ ((m.step t).1.run ts).2) := rfl

/-- A list of tokens after another goes on where that one ended. -/
theorem run_append (m : Machine) (a b : List Token) :
    m.run (a ++ b) = (((m.run a).1.run b).1, (m.run a).2 ++ ((m.run a).1.run b).2) := by
  induction a generalizing m with
  | nil => simp
  | cons t ts ih => simp [ih]

/-- Characters wait for their line feed. -/
@[simp] theorem run_glyphs (m : Machine) (bs : Bytes) :
    m.run (bs.map .glyph) = ({ m with pending := m.pending ++ bs }, []) := by
  induction bs generalizing m with
  | nil => simp
  | cons b bs ih => simp [step, ih]

/-- Whatever was printed before, a printer that is reset starts anew. -/
theorem step_reset (m : Machine) : m.step (.command .reset) = (initial, []) := rfl

end Machine

end ReceiptPrinting.Escpos
