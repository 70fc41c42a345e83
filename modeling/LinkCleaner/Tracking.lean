import LinkCleaner.Options

/-!
The built-in lists of tracking and referral parameters, and the test that decides which parameters
go.
-/

namespace LinkCleaner

/-- Whatever starts like this is a tracking parameter. -/
def trackingPrefix : Text := "utm_".toList

def trackingParams : Names :=
  ["utm_source".toList, "utm_medium".toList, "utm_campaign".toList, "utm_term".toList,
    "utm_content".toList, "utm_id".toList, "gclid".toList, "gclsrc".toList, "dclid".toList,
    "gbraid".toList, "wbraid".toList, "gad_source".toList, "gad_campaignid".toList,
    "_ga".toList, "_gl".toList, "_gid".toList,
    -- social and advertising networks
    "fbclid".toList, "igshid".toList, "igsh".toList, "msclkid".toList, "twclid".toList,
    "ttclid".toList, "li_fat_id".toList, "yclid".toList, "srsltid".toList,
    -- mail and marketing automation
    "mc_cid".toList, "mc_eid".toList, "mkt_tok".toList, "_hsenc".toList, "_hsmi".toList,
    "hsctatracking".toList, "vero_id".toList, "vero_conv".toList, "oly_anon_id".toList,
    "oly_enc_id".toList, "s_cid".toList, "ncid".toList, "sst_src".toList, "sst_mdm".toList,
    "sst_cmpgn".toList, "sst_trm".toList, "sst_cntnt".toList]

def referralParams : Names :=
  ["ref".toList, "ref_".toList, "ref_src".toList, "ref_url".toList, "referrer".toList,
    "referer".toList, "affid".toList, "aff_id".toList, "affiliate".toList,
    "affiliate_id".toList, "partner".toList, "partnerid".toList, "irclickid".toList,
    "clickid".toList, "subid".toList, "ascsubtag".toList]

/-- Whether a name in small letters is on a list that applies. -/
def CleaningOptions.lists (o : CleaningOptions) (name : Text) : Bool :=
  trackingPrefix.isPrefixOf name || trackingParams.contains name
    || (o.removeReferral && referralParams.contains name) || o.remove.contains name

/-- Whether a parameter goes: it is listed, and is not to be kept. -/
def CleaningOptions.removes (o : CleaningOptions) (key : Text) : Bool :=
  !o.keep.contains (Text.lower key) && o.lists (Text.lower key)

theorem CleaningOptions.removes_of_keep {o : CleaningOptions} {key : Text}
    (h : Text.lower key ∈ o.keep) : o.removes key = false := by
  simp [CleaningOptions.removes, h]

end LinkCleaner
