import PeakSlowness.Table
import PeakSlowness.Text.Utf8

set_option autoImplicit false

/-!
The text report: a header line, then a line for each row with the time, a comma and the value. A NaN is
written as nothing.
-/

namespace PeakSlowness.Csv

def header : String := "# Time, maximum slowness\n"

def cell (x : Binary64) : String := if x.isNaN then "" else x.toText

def line (r : Int × Binary64) : String := toString r.1 ++ "," ++ cell r.2 ++ "\n"

def text (table : Table) : String := header ++ String.join (table.rows.map line)

def octets (table : Table) : List UInt8 := Text.Utf8.encode (text table).toList

end PeakSlowness.Csv
