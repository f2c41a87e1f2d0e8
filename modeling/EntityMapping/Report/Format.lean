/-
Module: EntityMapping.Report.Format
Purpose: The formats in which a report can be written.
Main exports: ReportFormat, ReportFormat.ofName?, EntitiesReport.render, RelationsReport.render
-/
import EntityMapping.Json.Printer
import EntityMapping.Report.Table
import EntityMapping.Report.Toon

namespace EntityMapping

/-- A format of a report. -/
inductive ReportFormat where
  | table
  | json
  | toon
deriving DecidableEq, Repr

/-- The format of a name. -/
def ReportFormat.ofName? (name : String) : Option ReportFormat :=
  if name = "table" then some .table
  else if name = "json" then some .json
  else if name = "toon" then some .toon
  else none

/-- A report on entities in a format. -/
def EntitiesReport.render (report : EntitiesReport) : ReportFormat → String
  | .table => report.tableText
  | .json => report.toValue.pretty
  | .toon => Toon.encode report.toValue

/-- A report on relations in a format. -/
def RelationsReport.render (report : RelationsReport) : ReportFormat → String
  | .table => report.tableText
  | .json => report.toValue.pretty
  | .toon => Toon.encode report.toValue

end EntityMapping
