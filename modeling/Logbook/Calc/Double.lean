import Logbook.Calc.Evaluate
import Logbook.Number.Render

namespace Logbook.Calc

def doubles : Arithmetic Float where
  ofDecimal digits places := Float.ofScientific digits true places
  add := (· + ·)
  sub := (· - ·)
  mul := (· * ·)
  div := (· / ·)
  pow := Float.pow
  neg := (- ·)
  floor := Float.floor
  isZero x := x == 0.0
  render x := (Double.ofFloat x).render

def evaluateDouble (expression : String) : Except Fault Float :=
  evaluate doubles expression.toList

def formatNumber (x : Float) : String :=
  String.ofList (Double.ofFloat x).renderResult

end Logbook.Calc
