import CpuUsage.Proofs.Report.Text
import CpuUsage.Proofs.Table

/-! The table of an application as it is shown. Every instance has one line, which tells its slot and its values in the
colour of its level, and the lines come in the order of the slots; advice and warnings stand below the table. -/
namespace CpuUsage

theorem isPrintable_usageText (ratio : Binary64) : IsPrintable (usageText ratio).toList := by
  apply isPrintable_toList_append
  · rw [String.toList_ofList]
    exact Binary64.isPrintable_hundredths _
  · decide

namespace UsageLevel

/-- A text in the colour of a level: red over the entitlement and yellow near it. Where colours are not wanted, every
text stays as it is. -/
inductive Paints (text : String) : Bool → UsageLevel → String → Prop where
  | uncoloured (level : UsageLevel) : Paints text false level text
  | plain : Paints text true .normal text
  | yellow : Paints text true .near ("\x1b[33m" ++ text ++ "\x1b[0m")
  | red : Paints text true .over ("\x1b[31m" ++ text ++ "\x1b[0m")

theorem paints_paint {text : String} (printable : IsPrintable text.toList) (coloured : Bool) (level : UsageLevel) :
    Paints text coloured level (level.paint coloured text) := by
  cases coloured with
  | false => cases level <;> exact .uncoloured _
  | true =>
    cases level
    · exact .plain
    · rw [paint, Style.paint_of_printable _ printable]
      exact .yellow
    · rw [paint, Style.paint_of_printable _ printable]
      exact .red

theorem Paints.isOneLine {text painted : String} {coloured : Bool} {level : UsageLevel}
    (paints : Paints text coloured level painted) (printable : IsPrintable text.toList) : IsOneLine painted.toList := by
  have plain := isOneLine_of_printable printable
  cases paints with
  | uncoloured | plain => exact plain
  | yellow | red =>
    simp only [String.toList_append, isOneLine_append]
    exact ⟨⟨by decide, plain⟩, by decide⟩

end UsageLevel

namespace InstanceReport

theorem level_eq_near_iff (r : InstanceReport) : r.level = .near ↔
    ¬ .one < r.historical.value ∧ UsageLevel.nearEntitlement < r.historical.value := by
  rw [level, UsageLevel.of, entitlement]
  by_cases exceeds : .one < r.historical.value
  · simp [exceeds]
  · by_cases near : UsageLevel.nearEntitlement < r.historical.value <;> simp [exceeds, near]

/-- The row of an instance has its number and its two values in percent, all in the colour of its level. -/
structure ShownBy (coloured : Bool) (r : InstanceReport) (row : Row) : Prop where
  over_iff : r.level = .over ↔ .one < r.historical.value
  near_iff : r.level = .near ↔ ¬ .one < r.historical.value ∧ .ofRatio false 95 100 < r.historical.value
  slot : UsageLevel.Paints ("#" ++ toString r.slot.toNat) coloured r.level row.first
  average : UsageLevel.Paints (usageText r.historical.value) coloured r.level row.second
  current : UsageLevel.Paints (usageText r.current.value) coloured r.level row.third

def tableRow (coloured : Bool) (r : InstanceReport) : Row :=
  ⟨r.level.paint coloured ("#" ++ toString r.slot.toNat), r.level.paint coloured (usageText r.historical.value),
    r.level.paint coloured (usageText r.current.value)⟩

theorem isPrintable_number (slot : InstanceId) : IsPrintable (toString slot.toNat).toList := by
  simpa using isPrintable_of_areDigits (areDigits_toDigits slot.toNat)

theorem isPrintable_slotText (slot : InstanceId) : IsPrintable ("#" ++ toString slot.toNat).toList :=
  isPrintable_toList_append (by decide) (isPrintable_number slot)

theorem shownBy_tableRow (coloured : Bool) (r : InstanceReport) : r.ShownBy coloured (r.tableRow coloured) where
  over_iff := r.level_eq_over_iff
  near_iff := r.level_eq_near_iff
  slot := UsageLevel.paints_paint (isPrintable_slotText r.slot) coloured r.level
  average := UsageLevel.paints_paint (isPrintable_usageText _) coloured r.level
  current := UsageLevel.paints_paint (isPrintable_usageText _) coloured r.level

theorem isOneLine_tableRow (coloured : Bool) (r : InstanceReport) : (r.tableRow coloured).IsOneLine := by
  have shown := r.shownBy_tableRow coloured
  simp only [Row.IsOneLine, Row.toList, List.forall_mem_cons]
  exact ⟨shown.slot.isOneLine (isPrintable_slotText r.slot), shown.average.isOneLine (isPrintable_usageText _),
    shown.current.isOneLine (isPrintable_usageText _), List.forall_mem_nil _⟩

theorem isPrintable_warningText (slot : InstanceId) {times : String} (printable : IsPrintable times.toList) :
    IsPrintable (warningText slot times).toList := by
  have instanceText := isPrintable_toList_append (a := "Instance #") (by decide) (isPrintable_number slot)
  exact isPrintable_toList_append (isPrintable_toList_append instanceText (by decide)) printable

theorem isPrintable_spikeWarning? {r : InstanceReport} {warning : String} (warned : r.spikeWarning? = some warning) :
    IsPrintable warning.toList := by
  obtain ⟨_, spike, _, warns⟩ := spikeWarning?_eq_some warned
  have start := spike.start.isPrintable_plainText
  have stop := spike.stop.isPrintable_plainText
  rw [warns.text_eq]
  split
  · exact isPrintable_warningText _ (isPrintable_toList_append (by decide) start)
  · have since := isPrintable_toList_append (a := "from ") (by decide) start
    exact isPrintable_warningText _ (isPrintable_toList_append (isPrintable_toList_append since (by decide)) stop)

end InstanceReport

theorem joinLines_append (before behind : List String) :
    joinLines (before ++ behind) = joinLines before ++ joinLines behind := by
  simp [joinLines]

theorem joinLines_intercalate {ls : List (List Char)} (some : ls ≠ []) :
    joinLines [String.ofList (['\x0a'].intercalate ls)] = joinLines (ls.map String.ofList) := by
  induction ls with
  | nil => contradiction
  | cons l rest ih =>
    cases rest with
    | nil => simp [joinLines]
    | cons next rest =>
      have later := ih (List.cons_ne_nil _ _)
      rw [List.intercalate_cons_cons, List.map_cons]
      simp only [joinLines, List.map_cons, List.map_nil, String.join_cons] at later ⊢
      rw [← later]
      simp [String.append_assoc]

theorem Table.lines_ne_nil (t : Table) : t.lines ≠ [] :=
  List.append_ne_nil_of_right_ne_nil _ (List.cons_ne_nil _ _)

/-- A message behind a mark, the mark in bold, where colours are wanted. -/
def markedLine (coloured : Bool) (bold colour mark message : String) : String :=
  if coloured then bold ++ mark ++ "\x1b[0m " ++ colour ++ message ++ "\x1b[0m" else mark ++ " " ++ message

def shownTip (coloured : Bool) : String → String :=
  markedLine coloured "\x1b[1;36m" "\x1b[36m" "TIP:"

def shownWarning (coloured : Bool) : String → String :=
  markedLine coloured "\x1b[1;33m" "\x1b[33m" "WARNING:"

theorem paint_eq_markedLine (bold colour : Style) {mark message : String} (markPrintable : IsPrintable mark.toList)
    (printable : IsPrintable message.toList) (coloured : Bool) :
    bold.paint coloured mark ++ " " ++ colour.paint coloured message =
      markedLine coloured bold.start colour.start mark message := by
  cases coloured with
  | false => rfl
  | true =>
    rw [Style.paint_of_printable _ markPrintable, Style.paint_of_printable _ printable]
    apply String.toList_inj.mp
    simp [markedLine, Style.stop]

theorem tipLine_eq_shownTip {message : String} (printable : IsPrintable message.toList) (coloured : Bool) :
    tipLine coloured message = shownTip coloured message :=
  paint_eq_markedLine .boldCyan .cyan (by decide) printable coloured

theorem warningLine_eq_shownWarning {message : String} (printable : IsPrintable message.toList) (coloured : Bool) :
    warningLine coloured message = shownWarning coloured message :=
  paint_eq_markedLine .boldYellow .yellow (by decide) printable coloured

namespace ApplicationReport

/-- The text of a report with instances: their table between the header and the advice, one line for every instance
in their order. -/
structure ShownBy (coloured : Bool) (report : ApplicationReport) (w : Columns) (rows : List Row) (text : String) :
    Prop where
  each : List.Forall₂ (fun r row => r.ShownBy coloured row ∧ w.Holds row) report.instances rows
  text_eq : text = joinLines ([noteLine coloured, report.headerLine coloured, ""] ++
    w.tableTexts ⟨"", "avg usage", "curr usage"⟩ rows ++ (report.tip?.map (shownTip coloured)).toList ++
    report.warnings.map (shownWarning coloured))

theorem isPrintable_tipText {status : String} (printable : IsPrintable status.toList) :
    IsPrintable (tipText status).toList :=
  isPrintable_toList_append (isPrintable_toList_append (by decide) printable) (by decide +kernel)

theorem isPrintable_tip? {report : ApplicationReport} {tip : String} (told : report.tip? = some tip) :
    IsPrintable tip.toList := by
  rcases tip?_cases report with ⟨_, isOver⟩ | ⟨_, _, isNear⟩ | ⟨_, silent⟩
  · cases told.symm.trans isOver
    exact isPrintable_tipText (by decide)
  · cases told.symm.trans isNear
    exact isPrintable_tipText (by decide)
  · cases told.symm.trans silent

theorem text_of_running {report : ApplicationReport} (running : report.instances ≠ []) (coloured : Bool) :
    report.text .table coloured = joinLines ([noteLine coloured, report.headerLine coloured, ""] ++
      (report.table coloured).lines.map String.ofList ++ (report.tip?.map (shownTip coloured)).toList ++
      report.warnings.map (shownWarning coloured)) := by
  have tip : report.tip?.map (tipLine coloured) = report.tip?.map (shownTip coloured) :=
    Option.map_congr fun tip told => tipLine_eq_shownTip (isPrintable_tip? told) coloured
  have warnings : report.warnings.map (warningLine coloured) = report.warnings.map (shownWarning coloured) := by
    apply List.map_congr_left
    intro warning member
    obtain ⟨r, _, warned⟩ := List.mem_filterMap.mp member
    exact warningLine_eq_shownWarning (InstanceReport.isPrintable_spikeWarning? warned) coloured
  have lines : joinLines [(report.table coloured).text] = joinLines ((report.table coloured).lines.map String.ofList) :=
    joinLines_intercalate (Table.lines_ne_nil _)
  have listed : report.tableLines coloured = [noteLine coloured, report.headerLine coloured, ""] ++
      ([(report.table coloured).text] ++ (report.tip?.map (tipLine coloured)).toList ++
        report.warnings.map (warningLine coloured)) := by
    rw [tableLines, if_neg (by simpa using running)]
    rfl
  rw [text, listed, tip, warnings]
  simp only [joinLines_append, lines, String.append_assoc]

theorem text_of_idle {report : ApplicationReport} (idle : report.instances = []) (coloured : Bool) :
    report.text .table coloured = joinLines [noteLine coloured, report.headerLine coloured, "",
      infoLine coloured ("There are no running instances of app " ++ report.application ++ ".")] := by
  rw [text, tableLines, if_pos (by simp [idle])]
  rfl

theorem table_eq (report : ApplicationReport) (coloured : Bool) : report.table coloured =
    ⟨(⟨"", "avg usage", "curr usage"⟩ : Row).toList, (report.instances.map (·.tableRow coloured)).map Row.toList⟩ := by
  rw [List.map_map]
  rfl

theorem exists_shownBy {report : ApplicationReport} (running : report.instances ≠ []) (coloured : Bool) :
    ∃ w rows, report.ShownBy coloured w rows (report.text .table coloured) := by
  have header : (⟨"", "avg usage", "curr usage"⟩ : Row).IsOneLine := by
    simp only [Row.IsOneLine, Row.toList, List.forall_mem_cons]
    exact ⟨by decide, by decide, by decide, List.forall_mem_nil _⟩
  have oneLine : ∀ row ∈ _ :: report.instances.map (·.tableRow coloured), row.IsOneLine :=
    List.forall_mem_cons.mpr ⟨header, List.forall_mem_map.mpr fun r _ => r.isOneLine_tableRow coloured⟩
  obtain ⟨w, holds, lines⟩ := Columns.exists_tableTexts oneLine
  rw [← table_eq] at lines
  refine ⟨w, report.instances.map (·.tableRow coloured), ?_, ?_⟩
  · refine List.forall₂_map_right_iff.mpr (List.forall₂_same.mpr fun r member => ⟨r.shownBy_tableRow coloured, ?_⟩)
    exact holds _ (List.mem_cons_of_mem _ (List.mem_map_of_mem member))
  · rw [text_of_running running, lines]

/-- An instance over its entitlement, one at it, and one within it. -/
def oneOfEach : ApplicationReport :=
  ⟨"org", "space", "user", "web", [⟨0, ⟨⟨0x3ff8000000000000⟩, none⟩, ⟨.zero⟩⟩, ⟨2, ⟨.one, none⟩, ⟨.one⟩⟩,
    ⟨10, ⟨⟨0x3fe0000000000000⟩, none⟩, ⟨.one⟩⟩]⟩

example : (oneOfEach.table true).rows =
    [["\x1b[31m#0\x1b[0m", "\x1b[31m150.00%\x1b[0m", "\x1b[31m0.00%\x1b[0m"],
      ["\x1b[33m#2\x1b[0m", "\x1b[33m100.00%\x1b[0m", "\x1b[33m100.00%\x1b[0m"],
      ["#10", "50.00%", "100.00%"]] := by
  decide +kernel

end ApplicationReport
end CpuUsage
