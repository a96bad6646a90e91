set_option autoImplicit false

/-!
The formats of reports: a text file, a matrix file, or both of them.
-/

namespace PeakSlowness

/-- Which report files a run writes. -/
inductive ReportFormat where
  | csv
  | mat
  | both
  deriving DecidableEq, Repr

namespace ReportFormat

def name : ReportFormat → String
  | csv => "csv"
  | mat => "mat"
  | both => "both"

def ofName? (text : String) : Option ReportFormat := [csv, mat, both].find? (·.name = text)

def HasCsv (f : ReportFormat) : Prop := f = csv ∨ f = both

instance (f : ReportFormat) : Decidable f.HasCsv := inferInstanceAs (Decidable (_ ∨ _))

def HasMat (f : ReportFormat) : Prop := f = mat ∨ f = both

instance (f : ReportFormat) : Decidable f.HasMat := inferInstanceAs (Decidable (_ ∨ _))

theorem ofName?_name (f : ReportFormat) : ofName? f.name = some f := by cases f <;> decide

end ReportFormat

end PeakSlowness
