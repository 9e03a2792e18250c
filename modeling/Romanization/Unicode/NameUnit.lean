import Romanization.Unicode.Category
import Romanization.Unicode.CombiningClass

/-! What stands in a name in small letters and composed form: letters, digits and marks of Unicode 14, but
none that a compatibility mapping or case folding changes. The tables hold for code points beyond ASCII,
those of marks and directions for the ones that stand in a name. -/

namespace Romanization.Unicode

def strangeSpans : List (CodePoint × CodePoint) := [
  (0xA1, 0xB6), (0xB8, 0xD7), (0xF7, 0xF7), (0x133, 0x133), (0x140, 0x140), (0x149, 0x149),
  (0x17F, 0x17F), (0x1C6, 0x1CC), (0x1F3, 0x1F3), (0x2B0, 0x2B8), (0x2C2, 0x2C5), (0x2D2, 0x2EB),
  (0x2ED, 0x2ED), (0x2EF, 0x2FF), (0x345, 0x345), (0x34F, 0x34F), (0x37A, 0x37A), (0x384, 0x385),
  (0x3D0, 0x3D6), (0x3F0, 0x3F2), (0x3F5, 0x3F6), (0x482, 0x482), (0x488, 0x489), (0x55A, 0x55F),
  (0x587, 0x587), (0x589, 0x58F), (0x5BE, 0x5BE), (0x5C0, 0x5C0), (0x5C3, 0x5C3), (0x5C6, 0x5C6),
  (0x606, 0x60F), (0x61B, 0x61F), (0x640, 0x640), (0x66A, 0x66D), (0x675, 0x678), (0x6D4, 0x6D4),
  (0x6DE, 0x6DE), (0x6E9, 0x6E9), (0x700, 0x70D), (0x7F6, 0x7FA), (0x7FE, 0x7FF), (0x830, 0x83E),
  (0x85E, 0x85E), (0x888, 0x888), (0x964, 0x965), (0x970, 0x970), (0x9F2, 0x9FB), (0x9FD, 0x9FD),
  (0xA76, 0xA76), (0xAF0, 0xAF1), (0xB70, 0xB70), (0xB72, 0xB77), (0xBF0, 0xBFA), (0xC77, 0xC7F),
  (0xC84, 0xC84), (0xD4F, 0xD4F), (0xD58, 0xD5E), (0xD70, 0xD79), (0xDF4, 0xDF4), (0xE33, 0xE33),
  (0xE3F, 0xE3F), (0xE4F, 0xE4F), (0xE5A, 0xE5B), (0xEB3, 0xEB3), (0xEDC, 0xEDD), (0xF01, 0xF0A),
  (0xF0C, 0xF17), (0xF1A, 0xF1F), (0xF2A, 0xF34), (0xF36, 0xF36), (0xF38, 0xF38), (0xF3A, 0xF3D),
  (0xF77, 0xF79), (0xF85, 0xF85), (0xFBE, 0xFC5), (0xFC7, 0xFDA), (0x104A, 0x104F), (0x109E, 0x109F),
  (0x10FB, 0x10FC), (0x1100, 0x11FF), (0x1360, 0x137C), (0x1390, 0x1400), (0x166D, 0x166E),
  (0x169B, 0x169C), (0x16EB, 0x16F0), (0x1735, 0x1736), (0x17B4, 0x17B5), (0x17D4, 0x17D6),
  (0x17D8, 0x17DB), (0x17F0, 0x180F), (0x1940, 0x1945), (0x19DA, 0x19FF), (0x1A1E, 0x1A1F),
  (0x1AA0, 0x1AA6), (0x1AA8, 0x1AAD), (0x1ABE, 0x1ABE), (0x1B5A, 0x1B6A), (0x1B74, 0x1B7E),
  (0x1BFC, 0x1BFF), (0x1C3B, 0x1C3F), (0x1C7E, 0x1CC7), (0x1CD3, 0x1CD3), (0x1D2C, 0x1D2E),
  (0x1D30, 0x1D3A), (0x1D3C, 0x1D4D), (0x1D4F, 0x1D6A), (0x1D78, 0x1D78), (0x1D9B, 0x1DBF),
  (0x1E9A, 0x1E9B), (0x1F80, 0x1FA7), (0x1FB2, 0x1FB4), (0x1FB7, 0x1FC4), (0x1FC7, 0x1FCF),
  (0x1FDD, 0x1FDF), (0x1FED, 0x1FF4), (0x1FF7, 0x214D), (0x214F, 0x2182), (0x2185, 0x2BFF),
  (0x2C7C, 0x2C7D), (0x2CE5, 0x2CEA), (0x2CF9, 0x2CFF), (0x2D6F, 0x2D70), (0x2E00, 0x2E2E),
  (0x2E30, 0x3004), (0x3008, 0x3029), (0x302E, 0x303B), (0x303D, 0x303F), (0x309B, 0x309C),
  (0x309F, 0x30A0), (0x30FF, 0x30FF), (0x3131, 0x319F), (0x31C0, 0x31E3), (0x3200, 0x33FF),
  (0x4DC0, 0x4DFF), (0xA490, 0xA4C6), (0xA4FE, 0xA4FF), (0xA60D, 0xA60F), (0xA670, 0xA673),
  (0xA67E, 0xA67E), (0xA69C, 0xA69D), (0xA6E6, 0xA6EF), (0xA6F2, 0xA716), (0xA720, 0xA721),
  (0xA770, 0xA770), (0xA789, 0xA78A), (0xA7F2, 0xA7F4), (0xA7F8, 0xA7F9), (0xA828, 0xA82B),
  (0xA830, 0xA839), (0xA874, 0xA877), (0xA8CE, 0xA8CF), (0xA8F8, 0xA8FA), (0xA8FC, 0xA8FC),
  (0xA92E, 0xA92F), (0xA95F, 0xA97C), (0xA9C1, 0xA9CD), (0xA9DE, 0xA9DF), (0xAA5C, 0xAA5F),
  (0xAA77, 0xAA79), (0xAADE, 0xAADF), (0xAAF0, 0xAAF1), (0xAB5B, 0xAB5F), (0xAB69, 0xABBF),
  (0xABEB, 0xABEB), (0xD7B0, 0xD7FB), (0xFB00, 0xFB17), (0xFB20, 0xFE19), (0xFE30, 0xFE72),
  (0xFE74, 0xFFFD), (0x10100, 0x101FC), (0x102E1, 0x102FB), (0x10320, 0x10323), (0x10341, 0x10341),
  (0x1034A, 0x1034A), (0x1039F, 0x1039F), (0x103D0, 0x103D5), (0x1056F, 0x1056F), (0x10781, 0x107BA),
  (0x10857, 0x1085F), (0x10877, 0x1087F), (0x108A7, 0x108AF), (0x108FB, 0x108FF), (0x10916, 0x1091F),
  (0x1093F, 0x1093F), (0x109BC, 0x109BD), (0x109C0, 0x109FF), (0x10A40, 0x10A58), (0x10A7D, 0x10A7F),
  (0x10A9D, 0x10A9F), (0x10AC8, 0x10AC8), (0x10AEB, 0x10AF6), (0x10B39, 0x10B3F), (0x10B58, 0x10B5F),
  (0x10B78, 0x10B7F), (0x10B99, 0x10BAF), (0x10CFA, 0x10CFF), (0x10E60, 0x10E7E), (0x10EAD, 0x10EAD),
  (0x10F1D, 0x10F26), (0x10F51, 0x10F59), (0x10F86, 0x10F89), (0x10FC5, 0x10FCB), (0x11047, 0x11065),
  (0x110BB, 0x110C1), (0x11140, 0x11143), (0x11174, 0x11175), (0x111C5, 0x111C8), (0x111CD, 0x111CD),
  (0x111DB, 0x111DB), (0x111DD, 0x111F4), (0x11238, 0x1123D), (0x112A9, 0x112A9), (0x1144B, 0x1144F),
  (0x1145A, 0x1145D), (0x114C6, 0x114C6), (0x115C1, 0x115D7), (0x11641, 0x11643), (0x11660, 0x1166C),
  (0x116B9, 0x116B9), (0x1173A, 0x1173F), (0x1183B, 0x1183B), (0x118EA, 0x118F2), (0x11944, 0x11946),
  (0x119E2, 0x119E2), (0x11A3F, 0x11A46), (0x11A9A, 0x11A9C), (0x11A9E, 0x11AA2), (0x11C41, 0x11C45),
  (0x11C5A, 0x11C71), (0x11EF7, 0x11EF8), (0x11FC0, 0x11FFF), (0x12400, 0x12474), (0x12FF1, 0x12FF2),
  (0x16A6E, 0x16A6F), (0x16AF5, 0x16AF5), (0x16B37, 0x16B3F), (0x16B44, 0x16B45), (0x16B5B, 0x16B61),
  (0x16E80, 0x16E9A), (0x16FE2, 0x16FE2), (0x1BC9C, 0x1BC9C), (0x1BC9F, 0x1BC9F), (0x1CF50, 0x1D9FF),
  (0x1DA37, 0x1DA3A), (0x1DA6D, 0x1DA74), (0x1DA76, 0x1DA83), (0x1DA85, 0x1DA8B), (0x1E14F, 0x1E14F),
  (0x1E2FF, 0x1E2FF), (0x1E8C7, 0x1E8CF), (0x1E95E, 0x1FBF9), (0xE0100, 0xE01EF)]

def isNameUnit (c : CodePoint) : Bool := isPrintable c && !c.within strangeSpans

def markSpans : List (CodePoint × CodePoint) := [
  (0x7A6, 0x7B0), (0x900, 0x903), (0x93A, 0x93B), (0x93E, 0x94F), (0x955, 0x957), (0x962, 0x963),
  (0x981, 0x983), (0x9BE, 0x9CC), (0x9D7, 0x9D7), (0x9E2, 0x9E3), (0xA01, 0xA03), (0xA3E, 0xA51),
  (0xA70, 0xA71), (0xA75, 0xA83), (0xABE, 0xACC), (0xAE2, 0xAE3), (0xAFA, 0xB03), (0xB3E, 0xB57),
  (0xB62, 0xB63), (0xB82, 0xB82), (0xBBE, 0xBCC), (0xBD7, 0xBD7), (0xC00, 0xC04), (0xC3E, 0xC4C),
  (0xC62, 0xC63), (0xC81, 0xC83), (0xCBE, 0xCD6), (0xCE2, 0xCE3), (0xD00, 0xD03), (0xD3E, 0xD4C),
  (0xD57, 0xD57), (0xD62, 0xD63), (0xD81, 0xD83), (0xDCF, 0xDDF), (0xDF2, 0xDF3), (0xE31, 0xE31),
  (0xE34, 0xE37), (0xE47, 0xE4E), (0xEB1, 0xEB1), (0xEB4, 0xEBC), (0xECC, 0xECD), (0xF3E, 0xF3F),
  (0xF7E, 0xF7F), (0xF8D, 0xFBC), (0x102B, 0x103E), (0x1056, 0x1059), (0x105E, 0x1060),
  (0x1062, 0x1064), (0x1067, 0x106D), (0x1071, 0x1074), (0x1082, 0x108C), (0x108F, 0x108F),
  (0x109A, 0x109D), (0x1712, 0x1713), (0x1732, 0x1733), (0x1752, 0x1753), (0x1772, 0x1773),
  (0x17B6, 0x17D3), (0x1885, 0x1886), (0x1920, 0x1938), (0x1A19, 0x1A1B), (0x1A55, 0x1A74),
  (0x1B00, 0x1B04), (0x1B35, 0x1B43), (0x1B80, 0x1B82), (0x1BA1, 0x1BAD), (0x1BE7, 0x1BF1),
  (0x1C24, 0x1C36), (0x1CE1, 0x1CE1), (0x1CF7, 0x1CF7), (0xA802, 0xA802), (0xA80B, 0xA80B),
  (0xA823, 0xA827), (0xA880, 0xA881), (0xA8B4, 0xA8C5), (0xA8FF, 0xA8FF), (0xA926, 0xA92A),
  (0xA947, 0xA983), (0xA9B4, 0xA9BF), (0xA9E5, 0xA9E5), (0xAA29, 0xAA36), (0xAA43, 0xAA43),
  (0xAA4C, 0xAA4D), (0xAA7B, 0xAA7D), (0xAAEB, 0xAAEF), (0xAAF5, 0xAAF5), (0xABE3, 0xABEC),
  (0x10A01, 0x10A0E), (0x11000, 0x11002), (0x11038, 0x11045), (0x11073, 0x11074), (0x11080, 0x11082),
  (0x110B0, 0x110C2), (0x11127, 0x11132), (0x11145, 0x11146), (0x11180, 0x11182), (0x111B3, 0x111BF),
  (0x111C9, 0x111CF), (0x1122C, 0x1123E), (0x112DF, 0x112E8), (0x11300, 0x11303), (0x1133E, 0x1134C),
  (0x11357, 0x11357), (0x11362, 0x11363), (0x11435, 0x11445), (0x114B0, 0x114C1), (0x115AF, 0x115BE),
  (0x115DC, 0x115DD), (0x11630, 0x11640), (0x116AB, 0x116B5), (0x1171D, 0x1172A), (0x1182C, 0x11838),
  (0x11930, 0x1193C), (0x11940, 0x11940), (0x11942, 0x11942), (0x119D1, 0x119DF), (0x119E4, 0x119E4),
  (0x11A01, 0x11A0A), (0x11A33, 0x11A39), (0x11A3B, 0x11A3E), (0x11A51, 0x11A5B), (0x11A8A, 0x11A98),
  (0x11C2F, 0x11C3E), (0x11C92, 0x11CB6), (0x11D31, 0x11D43), (0x11D47, 0x11D47), (0x11D8A, 0x11D96),
  (0x11EF3, 0x11EF6), (0x16F4F, 0x16F4F), (0x16F51, 0x16F92), (0x16FE4, 0x16FE4), (0x1BC9D, 0x1DAAF)]

def isMark (c : CodePoint) : Bool := combiningClass c != 0 || c.within markSpans

def rightToLeftSpans : List (CodePoint × CodePoint) := [
  (0x5D0, 0x5F4), (0x620, 0x64A), (0x66E, 0x66F), (0x671, 0x6D5), (0x6E5, 0x6E6), (0x6EE, 0x6EF),
  (0x6FA, 0x710), (0x712, 0x72F), (0x74D, 0x7A5), (0x7B1, 0x7EA), (0x7F4, 0x7F5), (0x800, 0x815),
  (0x81A, 0x81A), (0x824, 0x824), (0x828, 0x828), (0x840, 0x858), (0x860, 0x88E), (0x8A0, 0x8C9),
  (0xFE73, 0xFE73), (0x10800, 0x10A00), (0x10A10, 0x10A35), (0x10A60, 0x10AE4), (0x10B00, 0x10D23),
  (0x10E80, 0x10EA9), (0x10EB0, 0x10F45), (0x10F70, 0x10F81), (0x10FB0, 0x10FF6), (0x1E800, 0x1E8C4),
  (0x1E922, 0x1E943), (0x1E94B, 0x1E959)]

def isRightToLeft (c : CodePoint) : Bool := c.within rightToLeftSpans

def neutralSpans : List (CodePoint × CodePoint) := [
  (0x2D, 0x2D), (0xB7, 0xB7), (0x2B9, 0x2BA), (0x2C6, 0x2CF), (0x2EC, 0x2EC), (0x375, 0x375),
  (0x2E2F, 0x2E2F), (0x30FB, 0x30FB), (0xA67F, 0xA67F), (0xA717, 0xA71F), (0xA788, 0xA788)]

def isNeutral (c : CodePoint) : Bool := c.within neutralSpans

end Romanization.Unicode
