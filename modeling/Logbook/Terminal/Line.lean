import Logbook.Unicode.Grapheme

namespace Logbook

/-- A line with a cursor. What stands before the cursor is kept with the nearest character first. -/
structure EditLine where
  before : List Char
  after : List Char
deriving Repr, DecidableEq

namespace EditLine

def empty : EditLine := ⟨[], []⟩

def text (l : EditLine) : List Char :=
  l.before.reverse ++ l.after

def ofText (cs : List Char) : EditLine := ⟨cs.reverse, []⟩

/-- The line with a character put in before the cursor. -/
def insert (l : EditLine) (c : Char) : EditLine :=
  { l with before := c :: l.before }

/-- How many characters the cursor passes on its way back. -/
def stepBack (l : EditLine) : Nat :=
  Unicode.lastWidth (l.before.map Unicode.Joiner.of)

/-- How many characters the cursor passes on its way on. -/
def stepOn (l : EditLine) : Nat :=
  Unicode.firstWidth (l.after.map Unicode.Joiner.of)

/-- The line without what stands just before the cursor. -/
def eraseBack (l : EditLine) : EditLine :=
  { l with before := l.before.drop l.stepBack }

/-- The line without what stands at the cursor. -/
def eraseOn (l : EditLine) : EditLine :=
  { l with after := l.after.drop l.stepOn }

/-- The line without anything before the cursor. -/
def eraseStart (l : EditLine) : EditLine :=
  { l with before := [] }

def moveBack (l : EditLine) : EditLine :=
  ⟨l.before.drop l.stepBack, (l.before.take l.stepBack).reverse ++ l.after⟩

/-- The line with the cursor moved on. -/
def moveOn (l : EditLine) : EditLine :=
  ⟨(l.after.take l.stepOn).reverse ++ l.before, l.after.drop l.stepOn⟩

def moveToStart (l : EditLine) : EditLine := ⟨[], l.text⟩

def moveToEnd (l : EditLine) : EditLine := ofText l.text

/-- The line with other text in place of all that stands before the cursor. -/
def replaceStart (l : EditLine) (cs : List Char) : EditLine :=
  { l with before := cs.reverse }

@[simp] theorem text_ofText (cs : List Char) : (ofText cs).text = cs := by
  simp [text, ofText]

@[simp] theorem text_insert (l : EditLine) (c : Char) :
    (l.insert c).text = l.before.reverse ++ c :: l.after := by
  simp [text, insert]

@[simp] theorem text_moveBack (l : EditLine) : l.moveBack.text = l.text := by
  simp only [text, moveBack, ← List.append_assoc, ← List.reverse_append, List.take_append_drop]

@[simp] theorem text_moveOn (l : EditLine) : l.moveOn.text = l.text := by
  simp [text, moveOn, List.reverse_append, List.append_assoc]

@[simp] theorem text_moveToStart (l : EditLine) : l.moveToStart.text = l.text := by
  simp [text, moveToStart]

@[simp] theorem text_moveToEnd (l : EditLine) : l.moveToEnd.text = l.text := by
  simp [moveToEnd]

end EditLine

end Logbook
