/-!
Characters that look like ASCII punctuation or blanks. An unknown character of a schema is
reported, then read as the ASCII text it looks like when that text is a token: the look-alikes
of blanks, quotes and the backslash stand for nothing and are skipped.
-/
namespace LoxFront.Schema

/-- Code points of look-alike characters and the ASCII text each is taken for. -/
def lookAlikes : List (Nat × String) :=
  [(0x2028, " "), (0x2029, " "), (0x1680, " "), (0x2000, " "), (0x2001, " "), (0x2002, " "),
   (0x2003, " "), (0x2004, " "), (0x2005, " "), (0x2006, " "), (0x2008, " "), (0x2009, " "),
   (0x200A, " "), (0x205F, " "), (0x00A0, " "), (0x3000, " "), (0x2007, " "), (0x202F, " "),
   (0x07FA, "_"), (0xFE4D, "_"), (0xFE4E, "_"), (0xFE4F, "_"), (0xFF3F, "_"),
   (0x2010, "-"), (0x2011, "-"), (0x2012, "-"), (0x2013, "-"), (0x2014, "-"), (0xFE58, "-"),
   (0x06D4, "-"), (0x2043, "-"), (0x02D7, "-"), (0x2212, "-"), (0x2796, "-"), (0x2CBA, "-"),
   (0xFF0D, "-"),
   (0x066B, ","), (0x201A, ","), (0x060D, ","), (0xA4F9, ","), (0xFF0C, ","),
   (0x037E, ";"), (0xFF1B, ";"), (0xFE54, ";"),
   (0x0903, ":"), (0x0A83, ":"), (0xFF1A, ":"), (0x0589, ":"), (0x0703, ":"), (0x0704, ":"),
   (0x16EC, ":"), (0xFE30, ":"), (0x1803, ":"), (0x1809, ":"), (0x205A, ":"), (0x05C3, ":"),
   (0x2236, ":"), (0x02D0, ":"), (0xA789, ":"), (0xA4FD, ":"), (0xFE55, ":"),
   (0xFF01, "!"), (0x01C3, "!"), (0x2D51, "!"), (0xFE57, "!"),
   (0x0294, "?"), (0x0241, "?"), (0x097D, "?"), (0x13AE, "?"), (0xA6EB, "?"), (0xFE56, "?"),
   (0xFF1F, "?"),
   (0x1D16D, "."), (0x2024, "."), (0x0701, "."), (0x0702, "."), (0xA60E, "."), (0x10A50, "."),
   (0x0660, "."), (0x06F0, "."), (0xA4F8, "."), (0xFE52, "."), (0xFF0E, "."), (0x3002, "."),
   (0x055D, "'"), (0xFF07, "'"), (0x2018, "'"), (0x2019, "'"), (0x201B, "'"), (0x2032, "'"),
   (0x2035, "'"), (0x055A, "'"), (0x05F3, "'"), (0x0060, "'"), (0x1FEF, "'"), (0xFF40, "'"),
   (0x00B4, "'"), (0x0384, "'"), (0x1FFD, "'"), (0x1FBD, "'"), (0x1FBF, "'"), (0x1FFE, "'"),
   (0x02B9, "'"), (0x0374, "'"), (0x02C8, "'"), (0x02CA, "'"), (0x02CB, "'"), (0x02F4, "'"),
   (0x02BB, "'"), (0x02BD, "'"), (0x02BC, "'"), (0x02BE, "'"), (0xA78C, "'"), (0x05D9, "'"),
   (0x07F4, "'"), (0x07F5, "'"), (0x144A, "'"), (0x16CC, "'"), (0x16F51, "'"), (0x16F52, "'"),
   (0xFF02, "\""), (0x201C, "\""), (0x201D, "\""), (0x201F, "\""), (0x2033, "\""),
   (0x2036, "\""), (0x3003, "\""), (0x05F4, "\""), (0x02DD, "\""), (0x02BA, "\""),
   (0x02F6, "\""), (0x02EE, "\""), (0x05F2, "\""),
   (0xFF08, "("), (0x2768, "("), (0x2772, "("), (0x3014, "("), (0xFD3E, "("),
   (0xFF09, ")"), (0x2769, ")"), (0x2773, ")"), (0x3015, ")"), (0xFD3F, ")"),
   (0xFF3B, "["), (0x2770, "["), (0x27E6, "["), (0x3010, "["), (0x3016, "["), (0x3018, "["),
   (0x301A, "["),
   (0xFF3D, "]"), (0x2771, "]"), (0x27E7, "]"), (0x3011, "]"), (0x3017, "]"), (0x3019, "]"),
   (0x301B, "]"),
   (0xFF5B, "\x7b"), (0x2774, "\x7b"), (0x1D114, "\x7b"),
   (0xFF5D, "\x7d"), (0x2775, "\x7d"),
   (0x204E, "*"), (0x066D, "*"), (0x2217, "*"), (0x1031F, "*"), (0xFF0A, "*"),
   (0x1735, "/"), (0x2041, "/"), (0x2215, "/"), (0x2044, "/"), (0x2571, "/"), (0x27CB, "/"),
   (0x29F8, "/"), (0x1D23A, "/"), (0x31D3, "/"), (0x3033, "/"), (0x4E3F, "/"), (0x2F03, "/"),
   (0xFF0F, "/"),
   (0xFF3C, "\\"), (0xFE68, "\\"), (0x2216, "\\"), (0x27CD, "\\"), (0x29F5, "\\"),
   (0x29F9, "\\"), (0x1D20F, "\\"), (0x1D23B, "\\"), (0x31D4, "\\"), (0x4E36, "\\"),
   (0x2F02, "\\"),
   (0xA778, "&"), (0xFF06, "&"),
   (0x16ED, "+"), (0x2795, "+"), (0x1029B, "+"), (0xFB29, "+"), (0xFF0B, "+"),
   (0x2039, "<"), (0x276E, "<"), (0x02C2, "<"), (0x1D236, "<"), (0x1438, "<"), (0x16B2, "<"),
   (0xFF1C, "<"),
   (0x1400, "="), (0x2E40, "="), (0x30A0, "="), (0xA4FF, "="), (0xFF1D, "="),
   (0x2A75, "=="),
   (0x203A, ">"), (0x276F, ">"), (0x02C3, ">"), (0x1D237, ">"), (0x1433, ">"), (0x16F3F, ">"),
   (0xFF1E, ">")]

def lookAlike (c : Char) : Option String :=
  (lookAlikes.find? fun e => e.1 == c.toNat).map (·.2)

end LoxFront.Schema
