import RpcBindings.Failure

/-! The reasons that responses give: no failure of any stage is without words. -/
namespace RpcBindings

theorem append_ne_empty_left {s : String} (some : s ≠ "") (t : String) : s ++ t ≠ "" := by
  intro empty
  exact some (String.append_eq_empty_iff.mp empty).1

theorem append_ne_empty_right (s : String) {t : String} (some : t ≠ "") : s ++ t ≠ "" := by
  intro empty
  exact some (String.append_eq_empty_iff.mp empty).2

-- A message is a row of texts put together, so it is enough to look at the first of them.

theorem OptionError.message_ne_empty {e : OptionError} (prepared : e.breakdown? = none) :
    e.message ≠ "" := by
  cases e with
  | broken cause => cases prepared
  | _ =>
    unfold message
    repeat refine append_ne_empty_left ?_ _
    decide

theorem CatalogError.message_ne_empty (e : CatalogError) : e.message ≠ "" := by
  cases e <;>
  · unfold message
    repeat refine append_ne_empty_left ?_ _
    decide

theorem Schema.LoadError.message_ne_empty {e : LoadError} (prepared : e.breakdown? = none) :
    e.message ≠ "" := by
  cases e with
  | broken cause => cases prepared
  | link file cause => exact append_ne_empty_left (append_ne_empty_right _ (by decide)) _
  | unknownFiles names => exact append_ne_empty_left (by decide) _

theorem Template.TemplateError.message_ne_empty (e : TemplateError) : e.message ≠ "" := by
  cases e <;>
  · unfold message
    repeat refine append_ne_empty_left ?_ _
    decide

theorem FileFault.message_ne_empty {e : FileFault} (prepared : e.breakdown? = none) :
    e.message ≠ "" := by
  cases e with
  | broken cause => cases prepared
  | render error =>
    unfold message FileError.message
    repeat refine append_ne_empty_left ?_ _
    decide

theorem SupportError.message_ne_empty (e : SupportError) : e.message ≠ "" := by
  unfold message
  repeat refine append_ne_empty_left ?_ _
  decide

theorem RunError.message_ne_empty {e : RunError} (prepared : e.breakdown? = none) :
    e.message ≠ "" := by
  cases e with
  | template cause => exact cause.message_ne_empty
  | file cause => exact FileFault.message_ne_empty prepared
  | support cause => exact cause.message_ne_empty
  | listing cause => cases prepared

/-- A failure that is not a breakdown has a reason in words. -/
theorem Failure.message_ne_empty {e : Failure} (prepared : e.breakdown? = none) :
    e.message ≠ "" := by
  cases e with
  | options cause => exact OptionError.message_ne_empty prepared
  | catalog cause => exact cause.message_ne_empty
  | schema cause => exact Schema.LoadError.message_ne_empty prepared
  | run cause => exact RunError.message_ne_empty prepared

end RpcBindings
