import WalletRecovery.Text.CharRange

/-!
# Combining classes

The canonical combining class of every character (Unicode property `Canonical_Combining_Class`).
Class zero marks the characters that nothing is moved across.
-/

namespace WalletRecovery.Text

structure ClassRange extends CharRange where
  value : Nat
deriving DecidableEq, Repr

def classRanges : List ClassRange := [
  ⟨⟨0x300, 0x314⟩, 230⟩, ⟨⟨0x315, 0x315⟩, 232⟩, ⟨⟨0x316, 0x319⟩, 220⟩, ⟨⟨0x31a, 0x31a⟩, 232⟩,
  ⟨⟨0x31b, 0x31b⟩, 216⟩, ⟨⟨0x31c, 0x320⟩, 220⟩, ⟨⟨0x321, 0x322⟩, 202⟩, ⟨⟨0x323, 0x326⟩, 220⟩,
  ⟨⟨0x327, 0x328⟩, 202⟩, ⟨⟨0x329, 0x333⟩, 220⟩, ⟨⟨0x334, 0x338⟩, 1⟩, ⟨⟨0x339, 0x33c⟩, 220⟩,
  ⟨⟨0x33d, 0x344⟩, 230⟩, ⟨⟨0x345, 0x345⟩, 240⟩, ⟨⟨0x346, 0x346⟩, 230⟩, ⟨⟨0x347, 0x349⟩, 220⟩,
  ⟨⟨0x34a, 0x34c⟩, 230⟩, ⟨⟨0x34d, 0x34e⟩, 220⟩, ⟨⟨0x350, 0x352⟩, 230⟩, ⟨⟨0x353, 0x356⟩, 220⟩,
  ⟨⟨0x357, 0x357⟩, 230⟩, ⟨⟨0x358, 0x358⟩, 232⟩, ⟨⟨0x359, 0x35a⟩, 220⟩, ⟨⟨0x35b, 0x35b⟩, 230⟩,
  ⟨⟨0x35c, 0x35c⟩, 233⟩, ⟨⟨0x35d, 0x35e⟩, 234⟩, ⟨⟨0x35f, 0x35f⟩, 233⟩, ⟨⟨0x360, 0x361⟩, 234⟩,
  ⟨⟨0x362, 0x362⟩, 233⟩, ⟨⟨0x363, 0x36f⟩, 230⟩, ⟨⟨0x483, 0x487⟩, 230⟩, ⟨⟨0x591, 0x591⟩, 220⟩,
  ⟨⟨0x592, 0x595⟩, 230⟩, ⟨⟨0x596, 0x596⟩, 220⟩, ⟨⟨0x597, 0x599⟩, 230⟩, ⟨⟨0x59a, 0x59a⟩, 222⟩,
  ⟨⟨0x59b, 0x59b⟩, 220⟩, ⟨⟨0x59c, 0x5a1⟩, 230⟩, ⟨⟨0x5a2, 0x5a7⟩, 220⟩, ⟨⟨0x5a8, 0x5a9⟩, 230⟩,
  ⟨⟨0x5aa, 0x5aa⟩, 220⟩, ⟨⟨0x5ab, 0x5ac⟩, 230⟩, ⟨⟨0x5ad, 0x5ad⟩, 222⟩, ⟨⟨0x5ae, 0x5ae⟩, 228⟩,
  ⟨⟨0x5af, 0x5af⟩, 230⟩, ⟨⟨0x5b0, 0x5b0⟩, 10⟩, ⟨⟨0x5b1, 0x5b1⟩, 11⟩, ⟨⟨0x5b2, 0x5b2⟩, 12⟩,
  ⟨⟨0x5b3, 0x5b3⟩, 13⟩, ⟨⟨0x5b4, 0x5b4⟩, 14⟩, ⟨⟨0x5b5, 0x5b5⟩, 15⟩, ⟨⟨0x5b6, 0x5b6⟩, 16⟩,
  ⟨⟨0x5b7, 0x5b7⟩, 17⟩, ⟨⟨0x5b8, 0x5b8⟩, 18⟩, ⟨⟨0x5b9, 0x5ba⟩, 19⟩, ⟨⟨0x5bb, 0x5bb⟩, 20⟩,
  ⟨⟨0x5bc, 0x5bc⟩, 21⟩, ⟨⟨0x5bd, 0x5bd⟩, 22⟩, ⟨⟨0x5bf, 0x5bf⟩, 23⟩, ⟨⟨0x5c1, 0x5c1⟩, 24⟩,
  ⟨⟨0x5c2, 0x5c2⟩, 25⟩, ⟨⟨0x5c4, 0x5c4⟩, 230⟩, ⟨⟨0x5c5, 0x5c5⟩, 220⟩, ⟨⟨0x5c7, 0x5c7⟩, 18⟩,
  ⟨⟨0x5c8, 0x5c8⟩, 10⟩, ⟨⟨0x5c9, 0x5c9⟩, 21⟩, ⟨⟨0x610, 0x617⟩, 230⟩, ⟨⟨0x618, 0x618⟩, 30⟩,
  ⟨⟨0x619, 0x619⟩, 31⟩, ⟨⟨0x61a, 0x61a⟩, 32⟩, ⟨⟨0x64b, 0x64b⟩, 27⟩, ⟨⟨0x64c, 0x64c⟩, 28⟩,
  ⟨⟨0x64d, 0x64d⟩, 29⟩, ⟨⟨0x64e, 0x64e⟩, 30⟩, ⟨⟨0x64f, 0x64f⟩, 31⟩, ⟨⟨0x650, 0x650⟩, 32⟩,
  ⟨⟨0x651, 0x651⟩, 33⟩, ⟨⟨0x652, 0x652⟩, 34⟩, ⟨⟨0x653, 0x654⟩, 230⟩, ⟨⟨0x655, 0x656⟩, 220⟩,
  ⟨⟨0x657, 0x65b⟩, 230⟩, ⟨⟨0x65c, 0x65c⟩, 220⟩, ⟨⟨0x65d, 0x65e⟩, 230⟩, ⟨⟨0x65f, 0x65f⟩, 220⟩,
  ⟨⟨0x670, 0x670⟩, 35⟩, ⟨⟨0x6d6, 0x6dc⟩, 230⟩, ⟨⟨0x6df, 0x6e2⟩, 230⟩, ⟨⟨0x6e3, 0x6e3⟩, 220⟩,
  ⟨⟨0x6e4, 0x6e4⟩, 230⟩, ⟨⟨0x6e7, 0x6e8⟩, 230⟩, ⟨⟨0x6ea, 0x6ea⟩, 220⟩, ⟨⟨0x6eb, 0x6ec⟩, 230⟩,
  ⟨⟨0x6ed, 0x6ed⟩, 220⟩, ⟨⟨0x711, 0x711⟩, 36⟩, ⟨⟨0x730, 0x730⟩, 230⟩, ⟨⟨0x731, 0x731⟩, 220⟩,
  ⟨⟨0x732, 0x733⟩, 230⟩, ⟨⟨0x734, 0x734⟩, 220⟩, ⟨⟨0x735, 0x736⟩, 230⟩, ⟨⟨0x737, 0x739⟩, 220⟩,
  ⟨⟨0x73a, 0x73a⟩, 230⟩, ⟨⟨0x73b, 0x73c⟩, 220⟩, ⟨⟨0x73d, 0x73d⟩, 230⟩, ⟨⟨0x73e, 0x73e⟩, 220⟩,
  ⟨⟨0x73f, 0x741⟩, 230⟩, ⟨⟨0x742, 0x742⟩, 220⟩, ⟨⟨0x743, 0x743⟩, 230⟩, ⟨⟨0x744, 0x744⟩, 220⟩,
  ⟨⟨0x745, 0x745⟩, 230⟩, ⟨⟨0x746, 0x746⟩, 220⟩, ⟨⟨0x747, 0x747⟩, 230⟩, ⟨⟨0x748, 0x748⟩, 220⟩,
  ⟨⟨0x749, 0x74a⟩, 230⟩, ⟨⟨0x7eb, 0x7f1⟩, 230⟩, ⟨⟨0x7f2, 0x7f2⟩, 220⟩, ⟨⟨0x7f3, 0x7f3⟩, 230⟩,
  ⟨⟨0x7fd, 0x7fd⟩, 220⟩, ⟨⟨0x816, 0x819⟩, 230⟩, ⟨⟨0x81b, 0x823⟩, 230⟩, ⟨⟨0x825, 0x827⟩, 230⟩,
  ⟨⟨0x829, 0x82d⟩, 230⟩, ⟨⟨0x859, 0x85b⟩, 220⟩, ⟨⟨0x897, 0x898⟩, 230⟩, ⟨⟨0x899, 0x89b⟩, 220⟩,
  ⟨⟨0x89c, 0x89f⟩, 230⟩, ⟨⟨0x8ca, 0x8ce⟩, 230⟩, ⟨⟨0x8cf, 0x8d3⟩, 220⟩, ⟨⟨0x8d4, 0x8e1⟩, 230⟩,
  ⟨⟨0x8e3, 0x8e3⟩, 220⟩, ⟨⟨0x8e4, 0x8e5⟩, 230⟩, ⟨⟨0x8e6, 0x8e6⟩, 220⟩, ⟨⟨0x8e7, 0x8e8⟩, 230⟩,
  ⟨⟨0x8e9, 0x8e9⟩, 220⟩, ⟨⟨0x8ea, 0x8ec⟩, 230⟩, ⟨⟨0x8ed, 0x8ef⟩, 220⟩, ⟨⟨0x8f0, 0x8f0⟩, 27⟩,
  ⟨⟨0x8f1, 0x8f1⟩, 28⟩, ⟨⟨0x8f2, 0x8f2⟩, 29⟩, ⟨⟨0x8f3, 0x8f5⟩, 230⟩, ⟨⟨0x8f6, 0x8f6⟩, 220⟩,
  ⟨⟨0x8f7, 0x8f8⟩, 230⟩, ⟨⟨0x8f9, 0x8fa⟩, 220⟩, ⟨⟨0x8fb, 0x8ff⟩, 230⟩, ⟨⟨0x93c, 0x93c⟩, 7⟩,
  ⟨⟨0x94d, 0x94d⟩, 9⟩, ⟨⟨0x951, 0x951⟩, 230⟩, ⟨⟨0x952, 0x952⟩, 220⟩, ⟨⟨0x953, 0x954⟩, 230⟩,
  ⟨⟨0x9bc, 0x9bc⟩, 7⟩, ⟨⟨0x9cd, 0x9cd⟩, 9⟩, ⟨⟨0x9fe, 0x9fe⟩, 230⟩, ⟨⟨0xa3c, 0xa3c⟩, 7⟩,
  ⟨⟨0xa4d, 0xa4d⟩, 9⟩, ⟨⟨0xabc, 0xabc⟩, 7⟩, ⟨⟨0xacd, 0xacd⟩, 9⟩, ⟨⟨0xb3c, 0xb3c⟩, 7⟩,
  ⟨⟨0xb4d, 0xb4d⟩, 9⟩, ⟨⟨0xbcd, 0xbcd⟩, 9⟩, ⟨⟨0xc3c, 0xc3c⟩, 7⟩, ⟨⟨0xc4d, 0xc4d⟩, 9⟩,
  ⟨⟨0xc55, 0xc55⟩, 84⟩, ⟨⟨0xc56, 0xc56⟩, 91⟩, ⟨⟨0xcbc, 0xcbc⟩, 7⟩, ⟨⟨0xccd, 0xccd⟩, 9⟩,
  ⟨⟨0xd3b, 0xd3c⟩, 9⟩, ⟨⟨0xd4d, 0xd4d⟩, 9⟩, ⟨⟨0xdca, 0xdca⟩, 9⟩, ⟨⟨0xe38, 0xe39⟩, 103⟩,
  ⟨⟨0xe3a, 0xe3a⟩, 9⟩, ⟨⟨0xe48, 0xe4b⟩, 107⟩, ⟨⟨0xeb8, 0xeb9⟩, 118⟩, ⟨⟨0xeba, 0xeba⟩, 9⟩,
  ⟨⟨0xec8, 0xecb⟩, 122⟩, ⟨⟨0xf18, 0xf19⟩, 220⟩, ⟨⟨0xf35, 0xf35⟩, 220⟩, ⟨⟨0xf37, 0xf37⟩, 220⟩,
  ⟨⟨0xf39, 0xf39⟩, 216⟩, ⟨⟨0xf71, 0xf71⟩, 129⟩, ⟨⟨0xf72, 0xf72⟩, 130⟩, ⟨⟨0xf74, 0xf74⟩, 132⟩,
  ⟨⟨0xf7a, 0xf7d⟩, 130⟩, ⟨⟨0xf80, 0xf80⟩, 130⟩, ⟨⟨0xf82, 0xf83⟩, 230⟩, ⟨⟨0xf84, 0xf84⟩, 9⟩,
  ⟨⟨0xf86, 0xf87⟩, 230⟩, ⟨⟨0xfc6, 0xfc6⟩, 220⟩, ⟨⟨0x1037, 0x1037⟩, 7⟩, ⟨⟨0x1039, 0x103a⟩, 9⟩,
  ⟨⟨0x108d, 0x108d⟩, 220⟩, ⟨⟨0x135d, 0x135f⟩, 230⟩, ⟨⟨0x1714, 0x1715⟩, 9⟩, ⟨⟨0x1734, 0x1734⟩, 9⟩,
  ⟨⟨0x17d2, 0x17d2⟩, 9⟩, ⟨⟨0x17dd, 0x17dd⟩, 230⟩, ⟨⟨0x18a9, 0x18a9⟩, 228⟩, ⟨⟨0x1939, 0x1939⟩, 222⟩,
  ⟨⟨0x193a, 0x193a⟩, 230⟩, ⟨⟨0x193b, 0x193b⟩, 220⟩, ⟨⟨0x1a17, 0x1a17⟩, 230⟩,
  ⟨⟨0x1a18, 0x1a18⟩, 220⟩, ⟨⟨0x1a60, 0x1a60⟩, 9⟩, ⟨⟨0x1a75, 0x1a7c⟩, 230⟩, ⟨⟨0x1a7f, 0x1a7f⟩, 220⟩,
  ⟨⟨0x1ab0, 0x1ab4⟩, 230⟩, ⟨⟨0x1ab5, 0x1aba⟩, 220⟩, ⟨⟨0x1abb, 0x1abc⟩, 230⟩,
  ⟨⟨0x1abd, 0x1abd⟩, 220⟩, ⟨⟨0x1abf, 0x1ac0⟩, 220⟩, ⟨⟨0x1ac1, 0x1ac2⟩, 230⟩,
  ⟨⟨0x1ac3, 0x1ac4⟩, 220⟩, ⟨⟨0x1ac5, 0x1ac9⟩, 230⟩, ⟨⟨0x1aca, 0x1aca⟩, 220⟩,
  ⟨⟨0x1acb, 0x1adc⟩, 230⟩, ⟨⟨0x1add, 0x1add⟩, 220⟩, ⟨⟨0x1ade, 0x1ae5⟩, 230⟩,
  ⟨⟨0x1ae6, 0x1ae6⟩, 220⟩, ⟨⟨0x1ae7, 0x1aea⟩, 230⟩, ⟨⟨0x1aeb, 0x1aeb⟩, 234⟩,
  ⟨⟨0x1aec, 0x1aef⟩, 230⟩, ⟨⟨0x1b34, 0x1b34⟩, 7⟩, ⟨⟨0x1b44, 0x1b44⟩, 9⟩, ⟨⟨0x1b6b, 0x1b6b⟩, 230⟩,
  ⟨⟨0x1b6c, 0x1b6c⟩, 220⟩, ⟨⟨0x1b6d, 0x1b73⟩, 230⟩, ⟨⟨0x1baa, 0x1bab⟩, 9⟩, ⟨⟨0x1be6, 0x1be6⟩, 7⟩,
  ⟨⟨0x1bf2, 0x1bf3⟩, 9⟩, ⟨⟨0x1c37, 0x1c37⟩, 7⟩, ⟨⟨0x1cd0, 0x1cd2⟩, 230⟩, ⟨⟨0x1cd4, 0x1cd4⟩, 1⟩,
  ⟨⟨0x1cd5, 0x1cd9⟩, 220⟩, ⟨⟨0x1cda, 0x1cdb⟩, 230⟩, ⟨⟨0x1cdc, 0x1cdf⟩, 220⟩,
  ⟨⟨0x1ce0, 0x1ce0⟩, 230⟩, ⟨⟨0x1ce2, 0x1ce8⟩, 1⟩, ⟨⟨0x1ced, 0x1ced⟩, 220⟩, ⟨⟨0x1cf4, 0x1cf4⟩, 230⟩,
  ⟨⟨0x1cf8, 0x1cf9⟩, 230⟩, ⟨⟨0x1dc0, 0x1dc1⟩, 230⟩, ⟨⟨0x1dc2, 0x1dc2⟩, 220⟩,
  ⟨⟨0x1dc3, 0x1dc9⟩, 230⟩, ⟨⟨0x1dca, 0x1dca⟩, 220⟩, ⟨⟨0x1dcb, 0x1dcc⟩, 230⟩,
  ⟨⟨0x1dcd, 0x1dcd⟩, 234⟩, ⟨⟨0x1dce, 0x1dce⟩, 214⟩, ⟨⟨0x1dcf, 0x1dcf⟩, 220⟩,
  ⟨⟨0x1dd0, 0x1dd0⟩, 202⟩, ⟨⟨0x1dd1, 0x1df5⟩, 230⟩, ⟨⟨0x1df6, 0x1df6⟩, 232⟩,
  ⟨⟨0x1df7, 0x1df8⟩, 228⟩, ⟨⟨0x1df9, 0x1df9⟩, 220⟩, ⟨⟨0x1dfa, 0x1dfa⟩, 218⟩,
  ⟨⟨0x1dfb, 0x1dfb⟩, 230⟩, ⟨⟨0x1dfc, 0x1dfc⟩, 233⟩, ⟨⟨0x1dfd, 0x1dfd⟩, 220⟩,
  ⟨⟨0x1dfe, 0x1dfe⟩, 230⟩, ⟨⟨0x1dff, 0x1dff⟩, 220⟩, ⟨⟨0x20d0, 0x20d1⟩, 230⟩, ⟨⟨0x20d2, 0x20d3⟩, 1⟩,
  ⟨⟨0x20d4, 0x20d7⟩, 230⟩, ⟨⟨0x20d8, 0x20da⟩, 1⟩, ⟨⟨0x20db, 0x20dc⟩, 230⟩, ⟨⟨0x20e1, 0x20e1⟩, 230⟩,
  ⟨⟨0x20e5, 0x20e6⟩, 1⟩, ⟨⟨0x20e7, 0x20e7⟩, 230⟩, ⟨⟨0x20e8, 0x20e8⟩, 220⟩, ⟨⟨0x20e9, 0x20e9⟩, 230⟩,
  ⟨⟨0x20ea, 0x20eb⟩, 1⟩, ⟨⟨0x20ec, 0x20ef⟩, 220⟩, ⟨⟨0x20f0, 0x20f0⟩, 230⟩, ⟨⟨0x2cef, 0x2cf1⟩, 230⟩,
  ⟨⟨0x2d7f, 0x2d7f⟩, 9⟩, ⟨⟨0x2de0, 0x2dff⟩, 230⟩, ⟨⟨0x302a, 0x302a⟩, 218⟩, ⟨⟨0x302b, 0x302b⟩, 228⟩,
  ⟨⟨0x302c, 0x302c⟩, 232⟩, ⟨⟨0x302d, 0x302d⟩, 222⟩, ⟨⟨0x302e, 0x302f⟩, 224⟩, ⟨⟨0x3099, 0x309a⟩, 8⟩,
  ⟨⟨0xa66f, 0xa66f⟩, 230⟩, ⟨⟨0xa674, 0xa67d⟩, 230⟩, ⟨⟨0xa69e, 0xa69f⟩, 230⟩,
  ⟨⟨0xa6f0, 0xa6f1⟩, 230⟩, ⟨⟨0xa806, 0xa806⟩, 9⟩, ⟨⟨0xa82c, 0xa82c⟩, 9⟩, ⟨⟨0xa8c4, 0xa8c4⟩, 9⟩,
  ⟨⟨0xa8e0, 0xa8f1⟩, 230⟩, ⟨⟨0xa92b, 0xa92d⟩, 220⟩, ⟨⟨0xa953, 0xa953⟩, 9⟩, ⟨⟨0xa9b3, 0xa9b3⟩, 7⟩,
  ⟨⟨0xa9c0, 0xa9c0⟩, 9⟩, ⟨⟨0xaab0, 0xaab0⟩, 230⟩, ⟨⟨0xaab2, 0xaab3⟩, 230⟩, ⟨⟨0xaab4, 0xaab4⟩, 220⟩,
  ⟨⟨0xaab7, 0xaab8⟩, 230⟩, ⟨⟨0xaabe, 0xaabf⟩, 230⟩, ⟨⟨0xaac1, 0xaac1⟩, 230⟩, ⟨⟨0xaaf6, 0xaaf6⟩, 9⟩,
  ⟨⟨0xabed, 0xabed⟩, 9⟩, ⟨⟨0xfb1e, 0xfb1e⟩, 26⟩, ⟨⟨0xfe20, 0xfe26⟩, 230⟩, ⟨⟨0xfe27, 0xfe2d⟩, 220⟩,
  ⟨⟨0xfe2e, 0xfe2f⟩, 230⟩, ⟨⟨0x101fd, 0x101fd⟩, 220⟩, ⟨⟨0x102e0, 0x102e0⟩, 220⟩,
  ⟨⟨0x10376, 0x1037a⟩, 230⟩, ⟨⟨0x10a0d, 0x10a0d⟩, 220⟩, ⟨⟨0x10a0f, 0x10a0f⟩, 230⟩,
  ⟨⟨0x10a38, 0x10a38⟩, 230⟩, ⟨⟨0x10a39, 0x10a39⟩, 1⟩, ⟨⟨0x10a3a, 0x10a3a⟩, 220⟩,
  ⟨⟨0x10a3f, 0x10a3f⟩, 9⟩, ⟨⟨0x10ae5, 0x10ae5⟩, 230⟩, ⟨⟨0x10ae6, 0x10ae6⟩, 220⟩,
  ⟨⟨0x10d24, 0x10d27⟩, 230⟩, ⟨⟨0x10d69, 0x10d6d⟩, 230⟩, ⟨⟨0x10eab, 0x10eac⟩, 230⟩,
  ⟨⟨0x10ecb, 0x10ecb⟩, 230⟩, ⟨⟨0x10ef0, 0x10ef3⟩, 230⟩, ⟨⟨0x10efa, 0x10efb⟩, 220⟩,
  ⟨⟨0x10efd, 0x10eff⟩, 220⟩, ⟨⟨0x10f46, 0x10f47⟩, 220⟩, ⟨⟨0x10f48, 0x10f4a⟩, 230⟩,
  ⟨⟨0x10f4b, 0x10f4b⟩, 220⟩, ⟨⟨0x10f4c, 0x10f4c⟩, 230⟩, ⟨⟨0x10f4d, 0x10f50⟩, 220⟩,
  ⟨⟨0x10f82, 0x10f82⟩, 230⟩, ⟨⟨0x10f83, 0x10f83⟩, 220⟩, ⟨⟨0x10f84, 0x10f84⟩, 230⟩,
  ⟨⟨0x10f85, 0x10f85⟩, 220⟩, ⟨⟨0x11046, 0x11046⟩, 9⟩, ⟨⟨0x11070, 0x11070⟩, 9⟩,
  ⟨⟨0x1107f, 0x1107f⟩, 9⟩, ⟨⟨0x110b9, 0x110b9⟩, 9⟩, ⟨⟨0x110ba, 0x110ba⟩, 7⟩,
  ⟨⟨0x11100, 0x11102⟩, 230⟩, ⟨⟨0x11133, 0x11134⟩, 9⟩, ⟨⟨0x11173, 0x11173⟩, 7⟩,
  ⟨⟨0x111c0, 0x111c0⟩, 9⟩, ⟨⟨0x111ca, 0x111ca⟩, 7⟩, ⟨⟨0x11235, 0x11235⟩, 9⟩,
  ⟨⟨0x11236, 0x11236⟩, 7⟩, ⟨⟨0x112e9, 0x112e9⟩, 7⟩, ⟨⟨0x112ea, 0x112ea⟩, 9⟩,
  ⟨⟨0x1133b, 0x1133c⟩, 7⟩, ⟨⟨0x1134d, 0x1134d⟩, 9⟩, ⟨⟨0x11366, 0x1136c⟩, 230⟩,
  ⟨⟨0x11370, 0x11374⟩, 230⟩, ⟨⟨0x113ce, 0x113d0⟩, 9⟩, ⟨⟨0x11442, 0x11442⟩, 9⟩,
  ⟨⟨0x11446, 0x11446⟩, 7⟩, ⟨⟨0x1145e, 0x1145e⟩, 230⟩, ⟨⟨0x114c2, 0x114c2⟩, 9⟩,
  ⟨⟨0x114c3, 0x114c3⟩, 7⟩, ⟨⟨0x115bf, 0x115bf⟩, 9⟩, ⟨⟨0x115c0, 0x115c0⟩, 7⟩,
  ⟨⟨0x1163f, 0x1163f⟩, 9⟩, ⟨⟨0x116b6, 0x116b6⟩, 9⟩, ⟨⟨0x116b7, 0x116b7⟩, 7⟩,
  ⟨⟨0x1172b, 0x1172b⟩, 9⟩, ⟨⟨0x11839, 0x11839⟩, 9⟩, ⟨⟨0x1183a, 0x1183a⟩, 7⟩,
  ⟨⟨0x1193d, 0x1193e⟩, 9⟩, ⟨⟨0x11943, 0x11943⟩, 7⟩, ⟨⟨0x119e0, 0x119e0⟩, 9⟩,
  ⟨⟨0x11a34, 0x11a34⟩, 9⟩, ⟨⟨0x11a47, 0x11a47⟩, 9⟩, ⟨⟨0x11a99, 0x11a99⟩, 9⟩,
  ⟨⟨0x11c3f, 0x11c3f⟩, 9⟩, ⟨⟨0x11d42, 0x11d42⟩, 7⟩, ⟨⟨0x11d44, 0x11d45⟩, 9⟩,
  ⟨⟨0x11d97, 0x11d97⟩, 9⟩, ⟨⟨0x11f41, 0x11f42⟩, 9⟩, ⟨⟨0x1612f, 0x1612f⟩, 9⟩,
  ⟨⟨0x16af0, 0x16af4⟩, 1⟩, ⟨⟨0x16b30, 0x16b36⟩, 230⟩, ⟨⟨0x16ff0, 0x16ff1⟩, 6⟩,
  ⟨⟨0x1bc9e, 0x1bc9e⟩, 1⟩, ⟨⟨0x1d127, 0x1d127⟩, 230⟩, ⟨⟨0x1d165, 0x1d166⟩, 216⟩,
  ⟨⟨0x1d167, 0x1d169⟩, 1⟩, ⟨⟨0x1d16d, 0x1d16d⟩, 226⟩, ⟨⟨0x1d16e, 0x1d172⟩, 216⟩,
  ⟨⟨0x1d17b, 0x1d182⟩, 220⟩, ⟨⟨0x1d185, 0x1d189⟩, 230⟩, ⟨⟨0x1d18a, 0x1d18b⟩, 220⟩,
  ⟨⟨0x1d1aa, 0x1d1ad⟩, 230⟩, ⟨⟨0x1d242, 0x1d244⟩, 230⟩, ⟨⟨0x1d250, 0x1d281⟩, 216⟩,
  ⟨⟨0x1e000, 0x1e006⟩, 230⟩, ⟨⟨0x1e008, 0x1e018⟩, 230⟩, ⟨⟨0x1e01b, 0x1e021⟩, 230⟩,
  ⟨⟨0x1e023, 0x1e024⟩, 230⟩, ⟨⟨0x1e026, 0x1e02a⟩, 230⟩, ⟨⟨0x1e08f, 0x1e08f⟩, 230⟩,
  ⟨⟨0x1e130, 0x1e136⟩, 230⟩, ⟨⟨0x1e2ae, 0x1e2ae⟩, 230⟩, ⟨⟨0x1e2ec, 0x1e2ef⟩, 230⟩,
  ⟨⟨0x1e4ec, 0x1e4ed⟩, 232⟩, ⟨⟨0x1e4ee, 0x1e4ee⟩, 220⟩, ⟨⟨0x1e4ef, 0x1e4ef⟩, 230⟩,
  ⟨⟨0x1e5ee, 0x1e5ee⟩, 230⟩, ⟨⟨0x1e5ef, 0x1e5ef⟩, 220⟩, ⟨⟨0x1e6e3, 0x1e6e3⟩, 230⟩,
  ⟨⟨0x1e6e6, 0x1e6e6⟩, 230⟩, ⟨⟨0x1e6ee, 0x1e6ef⟩, 230⟩, ⟨⟨0x1e6f5, 0x1e6f5⟩, 230⟩,
  ⟨⟨0x1e8d0, 0x1e8d6⟩, 220⟩, ⟨⟨0x1e944, 0x1e949⟩, 230⟩, ⟨⟨0x1e94a, 0x1e94a⟩, 7⟩]

def combiningClass (c : Char) : Nat :=
  if c.toNat < 0x300 then 0
  else ((classRanges.find? (·.contains c.toNat)).map (·.value)).getD 0

end WalletRecovery.Text
