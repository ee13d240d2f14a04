import CodeNotes.Collation.Weight
/-!
Collation weights of the scripts of Tibet, Mongolia and the steppe.
-/
namespace CodeNotes.Collation

def tibetan : Chart :=
  ⟨0xF00, 0xFFF,
    [⟨0xF00, 1, .several [.letter 0x348B 0x20 0x4, .letter 0x34A2 0x20 0x4, .mark 0xC4 0x4]⟩,
      ⟨0xF01, 3, .letter 0x5C1 0x20 0x2⟩, ⟨0xF04, 7, .blank 0x435⟩, ⟨0xF0B, 1, .blank 0x43E⟩,
      ⟨0xF0C, 7, .blank 0x43E⟩, ⟨0xF13, 1, .letter 0x5C4 0x20 0x2⟩, ⟨0xF14, 1, .blank 0x261⟩,
      ⟨0xF15, 3, .letter 0x5C5 0x20 0x2⟩, ⟨0xF18, 2, .ignored⟩,
      ⟨0xF1A, 6, .letter 0x5C8 0x20 0x2⟩, ⟨0xF20, 10, .letter 0x217D 0x20 0x2⟩,
      ⟨0xF2A, 9, .letter 0x217E 0x20 0x4⟩, ⟨0xF33, 1, .letter 0x217D 0x20 0x4⟩,
      ⟨0xF34, 1, .letter 0x5CE 0x20 0x2⟩, ⟨0xF35, 1, .ignored⟩,
      ⟨0xF36, 1, .letter 0x5CF 0x20 0x2⟩, ⟨0xF37, 1, .ignored⟩,
      ⟨0xF38, 1, .letter 0x5D0 0x20 0x2⟩, ⟨0xF39, 1, .mark 0xE6 0x2⟩, ⟨0xF3A, 4, .blank 0x343⟩,
      ⟨0xF3E, 2, .ignored⟩, ⟨0xF40, 1, .letter 0x3445 0x20 0x2⟩,
      ⟨0xF41, 1, .letter 0x3448 0x20 0x2⟩, ⟨0xF42, 1, .letter 0x344A 0x20 0x2⟩,
      ⟨0xF44, 1, .letter 0x344C 0x20 0x2⟩, ⟨0xF45, 1, .letter 0x344E 0x20 0x2⟩,
      ⟨0xF46, 1, .letter 0x3450 0x20 0x2⟩, ⟨0xF47, 1, .letter 0x3452 0x20 0x2⟩,
      ⟨0xF49, 1, .letter 0x3454 0x20 0x2⟩, ⟨0xF4A, 1, .letter 0x3456 0x20 0x2⟩,
      ⟨0xF4B, 1, .letter 0x3458 0x20 0x2⟩, ⟨0xF4C, 1, .letter 0x345A 0x20 0x2⟩,
      ⟨0xF4E, 1, .letter 0x345C 0x20 0x2⟩, ⟨0xF4F, 1, .letter 0x345E 0x20 0x2⟩,
      ⟨0xF50, 1, .letter 0x3460 0x20 0x2⟩, ⟨0xF51, 1, .letter 0x3462 0x20 0x2⟩,
      ⟨0xF53, 1, .letter 0x3464 0x20 0x2⟩, ⟨0xF54, 1, .letter 0x3466 0x20 0x2⟩,
      ⟨0xF55, 1, .letter 0x3468 0x20 0x2⟩, ⟨0xF56, 1, .letter 0x346A 0x20 0x2⟩,
      ⟨0xF58, 1, .letter 0x346C 0x20 0x2⟩, ⟨0xF59, 1, .letter 0x346E 0x20 0x2⟩,
      ⟨0xF5A, 1, .letter 0x3470 0x20 0x2⟩, ⟨0xF5B, 1, .letter 0x3472 0x20 0x2⟩,
      ⟨0xF5D, 1, .letter 0x3474 0x20 0x2⟩, ⟨0xF5E, 1, .letter 0x3476 0x20 0x2⟩,
      ⟨0xF5F, 1, .letter 0x3478 0x20 0x2⟩, ⟨0xF60, 1, .letter 0x347A 0x20 0x2⟩,
      ⟨0xF61, 1, .letter 0x347C 0x20 0x2⟩, ⟨0xF62, 1, .letter 0x347E 0x20 0x2⟩,
      ⟨0xF63, 1, .letter 0x3481 0x20 0x2⟩, ⟨0xF64, 1, .letter 0x3483 0x20 0x2⟩,
      ⟨0xF65, 1, .letter 0x3485 0x20 0x2⟩, ⟨0xF66, 1, .letter 0x3487 0x20 0x2⟩,
      ⟨0xF67, 1, .letter 0x3489 0x20 0x2⟩, ⟨0xF68, 1, .letter 0x348B 0x20 0x2⟩,
      ⟨0xF6A, 1, .several [.letter 0x347E 0x20 0x4, .mark 0x11E 0x4]⟩,
      ⟨0xF6B, 1, .letter 0x3447 0x20 0x2⟩, ⟨0xF6C, 1, .letter 0x3480 0x20 0x2⟩,
      ⟨0xF71, 2, .letter 0x3495 0x20 0x2⟩, ⟨0xF74, 1, .letter 0x349A 0x20 0x2⟩,
      ⟨0xF77, 1, .letter 0x349D 0x20 0x2⟩, ⟨0xF79, 5, .letter 0x349F 0x20 0x2⟩,
      ⟨0xF7E, 2, .mark 0xC4 0x2⟩, ⟨0xF80, 1, .letter 0x3498 0x20 0x2⟩,
      ⟨0xF82, 1, .mark 0xC3 0x2⟩, ⟨0xF83, 1, .mark 0xC3 0x2⟩,
      ⟨0xF84, 1, .letter 0x34A4 0x20 0x2⟩, ⟨0xF85, 1, .blank 0x445⟩, ⟨0xF86, 2, .ignored⟩,
      ⟨0xF88, 1, .letter 0x348D 0x20 0x2⟩, ⟨0xF89, 1, .letter 0x348F 0x20 0x2⟩,
      ⟨0xF8A, 2, .letter 0x3493 0x20 0x2⟩, ⟨0xF8C, 1, .letter 0x3491 0x20 0x2⟩,
      ⟨0xF8D, 1, .letter 0x348E 0x20 0x2⟩, ⟨0xF8E, 1, .letter 0x3490 0x20 0x2⟩,
      ⟨0xF8F, 1, .letter 0x3492 0x20 0x2⟩, ⟨0xF90, 1, .letter 0x3446 0x20 0x2⟩,
      ⟨0xF91, 1, .letter 0x3449 0x20 0x2⟩, ⟨0xF92, 1, .letter 0x344B 0x20 0x2⟩,
      ⟨0xF94, 1, .letter 0x344D 0x20 0x2⟩, ⟨0xF95, 1, .letter 0x344F 0x20 0x2⟩,
      ⟨0xF96, 1, .letter 0x3451 0x20 0x2⟩, ⟨0xF97, 1, .letter 0x3453 0x20 0x2⟩,
      ⟨0xF99, 1, .letter 0x3455 0x20 0x2⟩, ⟨0xF9A, 1, .letter 0x3457 0x20 0x2⟩,
      ⟨0xF9B, 1, .letter 0x3459 0x20 0x2⟩, ⟨0xF9C, 1, .letter 0x345B 0x20 0x2⟩,
      ⟨0xF9E, 1, .letter 0x345D 0x20 0x2⟩, ⟨0xF9F, 1, .letter 0x345F 0x20 0x2⟩,
      ⟨0xFA0, 1, .letter 0x3461 0x20 0x2⟩, ⟨0xFA1, 1, .letter 0x3463 0x20 0x2⟩,
      ⟨0xFA3, 1, .letter 0x3465 0x20 0x2⟩, ⟨0xFA4, 1, .letter 0x3467 0x20 0x2⟩,
      ⟨0xFA5, 1, .letter 0x3469 0x20 0x2⟩, ⟨0xFA6, 1, .letter 0x346B 0x20 0x2⟩,
      ⟨0xFA8, 1, .letter 0x346D 0x20 0x2⟩, ⟨0xFA9, 1, .letter 0x346F 0x20 0x2⟩,
      ⟨0xFAA, 1, .letter 0x3471 0x20 0x2⟩, ⟨0xFAB, 1, .letter 0x3473 0x20 0x2⟩,
      ⟨0xFAD, 1, .letter 0x3475 0x20 0x2⟩, ⟨0xFAE, 1, .letter 0x3477 0x20 0x2⟩,
      ⟨0xFAF, 1, .letter 0x3479 0x20 0x2⟩, ⟨0xFB0, 1, .letter 0x347B 0x20 0x2⟩,
      ⟨0xFB1, 1, .letter 0x347D 0x20 0x2⟩, ⟨0xFB2, 1, .letter 0x347F 0x20 0x2⟩,
      ⟨0xFB3, 1, .letter 0x3482 0x20 0x2⟩, ⟨0xFB4, 1, .letter 0x3484 0x20 0x2⟩,
      ⟨0xFB5, 1, .letter 0x3486 0x20 0x2⟩, ⟨0xFB6, 1, .letter 0x3488 0x20 0x2⟩,
      ⟨0xFB7, 1, .letter 0x348A 0x20 0x2⟩, ⟨0xFB8, 1, .letter 0x348C 0x20 0x2⟩,
      ⟨0xFBA, 1, .several [.letter 0x3475 0x20 0x4, .mark 0x11E 0x4]⟩,
      ⟨0xFBB, 1, .several [.letter 0x347D 0x20 0x4, .mark 0x11E 0x4]⟩,
      ⟨0xFBC, 1, .several [.letter 0x347F 0x20 0x4, .mark 0x11E 0x4]⟩,
      ⟨0xFBE, 8, .letter 0x5D1 0x20 0x2⟩, ⟨0xFC6, 1, .ignored⟩,
      ⟨0xFC7, 6, .letter 0x5D9 0x20 0x2⟩, ⟨0xFCE, 2, .letter 0x5DF 0x20 0x2⟩,
      ⟨0xFD0, 2, .blank 0x43C⟩, ⟨0xFD2, 3, .blank 0x446⟩, ⟨0xFD5, 4, .letter 0x5E1 0x20 0x2⟩,
      ⟨0xFD9, 2, .blank 0x449⟩]⟩

def mongolian : Chart :=
  ⟨0x1800, 0x18AF,
    [⟨0x1800, 1, .blank 0x40D⟩, ⟨0x1801, 1, .blank 0x283⟩, ⟨0x1802, 1, .blank 0x232⟩,
      ⟨0x1803, 1, .blank 0x288⟩, ⟨0x1804, 2, .blank 0x25F⟩, ⟨0x1806, 2, .blank 0x211⟩,
      ⟨0x1808, 1, .blank 0x233⟩, ⟨0x1809, 1, .blank 0x289⟩, ⟨0x180A, 6, .ignored⟩,
      ⟨0x1810, 10, .letter 0x217D 0x20 0x2⟩, ⟨0x1820, 1, .letter 0x39E9 0x20 0x2⟩,
      ⟨0x1821, 1, .letter 0x39EB 0x20 0x2⟩, ⟨0x1822, 1, .letter 0x39EE 0x20 0x2⟩,
      ⟨0x1823, 1, .letter 0x39F4 0x20 0x2⟩, ⟨0x1824, 1, .letter 0x39F6 0x20 0x2⟩,
      ⟨0x1825, 1, .letter 0x39F9 0x20 0x2⟩, ⟨0x1826, 1, .letter 0x39FB 0x20 0x2⟩,
      ⟨0x1827, 3, .letter 0x39FE 0x20 0x2⟩, ⟨0x182A, 1, .letter 0x3A05 0x20 0x2⟩,
      ⟨0x182B, 1, .letter 0x3A07 0x20 0x2⟩, ⟨0x182C, 1, .letter 0x3A0A 0x20 0x2⟩,
      ⟨0x182D, 1, .letter 0x3A0C 0x20 0x2⟩, ⟨0x182E, 1, .letter 0x3A11 0x20 0x2⟩,
      ⟨0x182F, 3, .letter 0x3A13 0x20 0x2⟩, ⟨0x1832, 1, .letter 0x3A1C 0x20 0x2⟩,
      ⟨0x1833, 1, .letter 0x3A1F 0x20 0x2⟩, ⟨0x1834, 1, .letter 0x3A22 0x20 0x2⟩,
      ⟨0x1835, 1, .letter 0x3A28 0x20 0x2⟩, ⟨0x1836, 1, .letter 0x3A2C 0x20 0x2⟩,
      ⟨0x1837, 1, .letter 0x3A2F 0x20 0x2⟩, ⟨0x1838, 1, .letter 0x3A31 0x20 0x2⟩,
      ⟨0x1839, 1, .letter 0x3A33 0x20 0x2⟩, ⟨0x183A, 1, .letter 0x3A36 0x20 0x2⟩,
      ⟨0x183B, 2, .letter 0x3A3B 0x20 0x2⟩, ⟨0x183D, 1, .letter 0x3A3F 0x20 0x2⟩,
      ⟨0x183E, 1, .letter 0x3A43 0x20 0x2⟩, ⟨0x183F, 4, .letter 0x3A46 0x20 0x2⟩,
      ⟨0x1843, 1, .letter 0x39E8 0x20 0x2⟩, ⟨0x1844, 1, .letter 0x39EC 0x20 0x2⟩,
      ⟨0x1845, 1, .letter 0x39EF 0x20 0x2⟩, ⟨0x1846, 1, .letter 0x39F5 0x20 0x2⟩,
      ⟨0x1847, 1, .letter 0x39F7 0x20 0x2⟩, ⟨0x1848, 1, .letter 0x39FA 0x20 0x2⟩,
      ⟨0x1849, 1, .letter 0x39FC 0x20 0x2⟩, ⟨0x184A, 1, .letter 0x3A01 0x20 0x2⟩,
      ⟨0x184B, 1, .letter 0x3A06 0x20 0x2⟩, ⟨0x184C, 1, .letter 0x3A08 0x20 0x2⟩,
      ⟨0x184D, 1, .letter 0x3A0B 0x20 0x2⟩, ⟨0x184E, 1, .letter 0x3A0D 0x20 0x2⟩,
      ⟨0x184F, 1, .letter 0x3A12 0x20 0x2⟩, ⟨0x1850, 1, .letter 0x3A1D 0x20 0x2⟩,
      ⟨0x1851, 1, .letter 0x3A20 0x20 0x2⟩, ⟨0x1852, 1, .letter 0x3A23 0x20 0x2⟩,
      ⟨0x1853, 1, .letter 0x3A29 0x20 0x2⟩, ⟨0x1854, 1, .letter 0x3A3D 0x20 0x2⟩,
      ⟨0x1855, 1, .letter 0x3A2D 0x20 0x2⟩, ⟨0x1856, 1, .letter 0x3A32 0x20 0x2⟩,
      ⟨0x1857, 1, .letter 0x3A37 0x20 0x2⟩, ⟨0x1858, 1, .letter 0x3A41 0x20 0x2⟩,
      ⟨0x1859, 1, .letter 0x3A44 0x20 0x2⟩, ⟨0x185A, 2, .letter 0x3A4A 0x20 0x2⟩,
      ⟨0x185C, 1, .letter 0x3A26 0x20 0x2⟩, ⟨0x185D, 1, .letter 0x39ED 0x20 0x2⟩,
      ⟨0x185E, 1, .letter 0x39F0 0x20 0x2⟩, ⟨0x185F, 1, .letter 0x39F3 0x20 0x2⟩,
      ⟨0x1860, 1, .letter 0x39FD 0x20 0x2⟩, ⟨0x1861, 1, .letter 0x39F8 0x20 0x2⟩,
      ⟨0x1862, 1, .letter 0x3A02 0x20 0x2⟩, ⟨0x1863, 1, .letter 0x3A38 0x20 0x2⟩,
      ⟨0x1864, 1, .letter 0x3A0E 0x20 0x2⟩, ⟨0x1865, 1, .letter 0x3A10 0x20 0x2⟩,
      ⟨0x1866, 1, .letter 0x3A09 0x20 0x2⟩, ⟨0x1867, 1, .letter 0x3A16 0x20 0x2⟩,
      ⟨0x1868, 1, .letter 0x3A1E 0x20 0x2⟩, ⟨0x1869, 1, .letter 0x3A21 0x20 0x2⟩,
      ⟨0x186A, 1, .letter 0x3A2A 0x20 0x2⟩, ⟨0x186B, 1, .letter 0x3A34 0x20 0x2⟩,
      ⟨0x186C, 1, .letter 0x3A42 0x20 0x2⟩, ⟨0x186D, 1, .letter 0x3A45 0x20 0x2⟩,
      ⟨0x186E, 1, .letter 0x3A3E 0x20 0x2⟩, ⟨0x186F, 1, .letter 0x3A40 0x20 0x2⟩,
      ⟨0x1870, 1, .letter 0x3A4C 0x20 0x2⟩, ⟨0x1871, 1, .letter 0x3A24 0x20 0x2⟩,
      ⟨0x1872, 1, .letter 0x3A2E 0x20 0x2⟩, ⟨0x1873, 1, .letter 0x39F1 0x20 0x2⟩,
      ⟨0x1874, 1, .letter 0x3A39 0x20 0x2⟩, ⟨0x1875, 1, .letter 0x3A30 0x20 0x2⟩,
      ⟨0x1876, 1, .letter 0x3A35 0x20 0x2⟩, ⟨0x1877, 1, .letter 0x3A2B 0x20 0x2⟩,
      ⟨0x1878, 1, .letter 0x3A25 0x20 0x2⟩, ⟨0x1880, 7, .letter 0x39E1 0x20 0x2⟩,
      ⟨0x1887, 1, .letter 0x39EA 0x20 0x2⟩, ⟨0x1888, 1, .letter 0x39F2 0x20 0x2⟩,
      ⟨0x1889, 1, .letter 0x3A3A 0x20 0x2⟩, ⟨0x188A, 1, .letter 0x3A03 0x20 0x2⟩,
      ⟨0x188B, 1, .letter 0x3A27 0x20 0x2⟩, ⟨0x188C, 1, .letter 0x3A4D 0x20 0x2⟩,
      ⟨0x188D, 2, .letter 0x3A4F 0x20 0x2⟩, ⟨0x188F, 2, .letter 0x3A52 0x20 0x2⟩,
      ⟨0x1891, 1, .letter 0x3A56 0x20 0x2⟩, ⟨0x1892, 2, .letter 0x3A58 0x20 0x2⟩,
      ⟨0x1894, 1, .letter 0x3A5B 0x20 0x2⟩, ⟨0x1895, 1, .letter 0x3A5D 0x20 0x2⟩,
      ⟨0x1896, 2, .letter 0x3A5F 0x20 0x2⟩, ⟨0x1898, 1, .letter 0x3A54 0x20 0x2⟩,
      ⟨0x1899, 1, .letter 0x3A5E 0x20 0x2⟩, ⟨0x189A, 1, .letter 0x3A0F 0x20 0x2⟩,
      ⟨0x189B, 1, .letter 0x3A04 0x20 0x2⟩, ⟨0x189C, 2, .letter 0x3A17 0x20 0x2⟩,
      ⟨0x189E, 1, .letter 0x3A4E 0x20 0x2⟩, ⟨0x189F, 1, .letter 0x3A51 0x20 0x2⟩,
      ⟨0x18A0, 1, .letter 0x3A55 0x20 0x2⟩, ⟨0x18A1, 1, .letter 0x3A57 0x20 0x2⟩,
      ⟨0x18A2, 1, .letter 0x3A19 0x20 0x2⟩, ⟨0x18A3, 1, .letter 0x3A5C 0x20 0x2⟩,
      ⟨0x18A4, 2, .letter 0x3A1A 0x20 0x2⟩, ⟨0x18A6, 2, .letter 0x3A61 0x20 0x2⟩,
      ⟨0x18A8, 1, .letter 0x3A5A 0x20 0x2⟩, ⟨0x18A9, 1, .letter 0x3A64 0x20 0x2⟩,
      ⟨0x18AA, 1, .letter 0x3A63 0x20 0x2⟩]⟩

def phagspa : Chart :=
  ⟨0xA840, 0xA87F,
    [⟨0xA840, 8, .letter 0x358C 0x20 0x2⟩, ⟨0xA848, 12, .letter 0x3598 0x20 0x2⟩,
      ⟨0xA854, 4, .letter 0x35A5 0x20 0x2⟩, ⟨0xA858, 1, .letter 0x35AB 0x20 0x2⟩,
      ⟨0xA859, 2, .letter 0x35AE 0x20 0x2⟩, ⟨0xA85B, 2, .letter 0x35B1 0x20 0x2⟩,
      ⟨0xA85D, 1, .letter 0x35B5 0x20 0x2⟩, ⟨0xA85E, 4, .letter 0x35BA 0x20 0x2⟩,
      ⟨0xA862, 4, .letter 0x35B6 0x20 0x2⟩, ⟨0xA866, 1, .letter 0x35BE 0x20 0x2⟩,
      ⟨0xA867, 1, .letter 0x35A4 0x20 0x2⟩, ⟨0xA868, 1, .letter 0x35A9 0x20 0x2⟩,
      ⟨0xA869, 4, .letter 0x3594 0x20 0x2⟩, ⟨0xA86D, 1, .letter 0x35AA 0x20 0x2⟩,
      ⟨0xA86E, 1, .letter 0x35B0 0x20 0x2⟩, ⟨0xA86F, 2, .letter 0x35B3 0x20 0x2⟩,
      ⟨0xA871, 2, .letter 0x35AC 0x20 0x2⟩, ⟨0xA873, 1, .letter 0x35BF 0x20 0x2⟩,
      ⟨0xA874, 2, .blank 0x479⟩, ⟨0xA876, 2, .blank 0x2A0⟩]⟩

def oldTurkic : Chart :=
  ⟨0x10C00, 0x10C4F,
    [⟨0x10C00, 1, .letter 0x3E66 0x20 0x2⟩,
      ⟨0x10C01, 1, .several [.letter 0x3E66 0x20 0x4, .mark 0x11E 0x4]⟩,
      ⟨0x10C02, 2, .letter 0x3E67 0x20 0x2⟩,
      ⟨0x10C04, 1, .several [.letter 0x3E68 0x20 0x4, .mark 0x11E 0x4]⟩,
      ⟨0x10C05, 3, .letter 0x3E69 0x20 0x2⟩,
      ⟨0x10C08, 1, .several [.letter 0x3E6B 0x20 0x4, .mark 0x11E 0x4]⟩,
      ⟨0x10C09, 1, .letter 0x3E6C 0x20 0x2⟩,
      ⟨0x10C0A, 1, .several [.letter 0x3E6C 0x20 0x4, .mark 0x11E 0x4]⟩,
      ⟨0x10C0B, 1, .letter 0x3E6D 0x20 0x2⟩,
      ⟨0x10C0C, 1, .several [.letter 0x3E6D 0x20 0x4, .mark 0x11E 0x4]⟩,
      ⟨0x10C0D, 1, .letter 0x3E6E 0x20 0x2⟩,
      ⟨0x10C0E, 1, .several [.letter 0x3E6E 0x20 0x4, .mark 0x11E 0x4]⟩,
      ⟨0x10C0F, 1, .letter 0x3E6F 0x20 0x2⟩,
      ⟨0x10C10, 1, .several [.letter 0x3E6F 0x20 0x4, .mark 0x11E 0x4]⟩,
      ⟨0x10C11, 1, .letter 0x3E70 0x20 0x2⟩,
      ⟨0x10C12, 1, .several [.letter 0x3E70 0x20 0x4, .mark 0x11E 0x4]⟩,
      ⟨0x10C13, 2, .letter 0x3E71 0x20 0x2⟩,
      ⟨0x10C15, 1, .several [.letter 0x3E72 0x20 0x4, .mark 0x11E 0x4]⟩,
      ⟨0x10C16, 1, .letter 0x3E73 0x20 0x2⟩,
      ⟨0x10C17, 1, .several [.letter 0x3E73 0x20 0x4, .mark 0x11E 0x4]⟩,
      ⟨0x10C18, 1, .letter 0x3E74 0x20 0x2⟩,
      ⟨0x10C19, 1, .several [.letter 0x3E74 0x20 0x4, .mark 0x11E 0x4]⟩,
      ⟨0x10C1A, 1, .letter 0x3E75 0x20 0x2⟩,
      ⟨0x10C1B, 1, .several [.letter 0x3E75 0x20 0x4, .mark 0x11E 0x4]⟩,
      ⟨0x10C1C, 1, .letter 0x3E76 0x20 0x2⟩,
      ⟨0x10C1D, 1, .several [.letter 0x3E76 0x20 0x4, .mark 0x11E 0x4]⟩,
      ⟨0x10C1E, 1, .letter 0x3E77 0x20 0x2⟩,
      ⟨0x10C1F, 1, .several [.letter 0x3E77 0x20 0x4, .mark 0x11E 0x4]⟩,
      ⟨0x10C20, 5, .letter 0x3E78 0x20 0x2⟩,
      ⟨0x10C25, 1, .several [.letter 0x3E7C 0x20 0x4, .mark 0x11E 0x4]⟩,
      ⟨0x10C26, 1, .letter 0x3E7D 0x20 0x2⟩,
      ⟨0x10C27, 1, .several [.letter 0x3E7D 0x20 0x4, .mark 0x11E 0x4]⟩,
      ⟨0x10C28, 1, .letter 0x3E7E 0x20 0x2⟩,
      ⟨0x10C29, 1, .several [.letter 0x3E7E 0x20 0x4, .mark 0x11E 0x4]⟩,
      ⟨0x10C2A, 1, .letter 0x3E7F 0x20 0x2⟩,
      ⟨0x10C2B, 1, .several [.letter 0x3E7F 0x20 0x4, .mark 0x11E 0x4]⟩,
      ⟨0x10C2C, 2, .letter 0x3E80 0x20 0x2⟩,
      ⟨0x10C2E, 1, .several [.letter 0x3E81 0x20 0x4, .mark 0x11E 0x4]⟩,
      ⟨0x10C2F, 4, .letter 0x3E82 0x20 0x2⟩,
      ⟨0x10C33, 1, .several [.letter 0x3E85 0x20 0x4, .mark 0x11E 0x4]⟩,
      ⟨0x10C34, 1, .letter 0x3E86 0x20 0x2⟩,
      ⟨0x10C35, 1, .several [.letter 0x3E86 0x20 0x4, .mark 0x11E 0x4]⟩,
      ⟨0x10C36, 1, .letter 0x3E87 0x20 0x2⟩,
      ⟨0x10C37, 1, .several [.letter 0x3E87 0x20 0x4, .mark 0x11E 0x4]⟩,
      ⟨0x10C38, 1, .letter 0x3E88 0x20 0x2⟩,
      ⟨0x10C39, 1, .several [.letter 0x3E88 0x20 0x4, .mark 0x11E 0x4]⟩,
      ⟨0x10C3A, 1, .letter 0x3E89 0x20 0x2⟩,
      ⟨0x10C3B, 1, .several [.letter 0x3E89 0x20 0x4, .mark 0x11E 0x4]⟩,
      ⟨0x10C3C, 4, .letter 0x3E8A 0x20 0x2⟩,
      ⟨0x10C40, 1, .several [.letter 0x3E8D 0x20 0x4, .mark 0x11E 0x4]⟩,
      ⟨0x10C41, 1, .letter 0x3E8E 0x20 0x2⟩,
      ⟨0x10C42, 1, .several [.letter 0x3E8E 0x20 0x4, .mark 0x11E 0x4]⟩,
      ⟨0x10C43, 1, .letter 0x3E8F 0x20 0x2⟩,
      ⟨0x10C44, 1, .several [.letter 0x3E8F 0x20 0x4, .mark 0x11E 0x4]⟩,
      ⟨0x10C45, 1, .letter 0x3E90 0x20 0x2⟩,
      ⟨0x10C46, 1, .several [.letter 0x3E90 0x20 0x4, .mark 0x11E 0x4]⟩,
      ⟨0x10C47, 2, .letter 0x3E91 0x20 0x2⟩]⟩

def oldSogdian : Chart :=
  ⟨0x10F00, 0x10F2F,
    [⟨0x10F00, 1, .letter 0x544C 0x20 0x2⟩, ⟨0x10F01, 1, .letter 0x544C 0x20 0x19⟩,
      ⟨0x10F02, 1, .letter 0x544D 0x20 0x2⟩, ⟨0x10F03, 1, .letter 0x544D 0x20 0x19⟩,
      ⟨0x10F04, 2, .letter 0x544E 0x20 0x2⟩, ⟨0x10F06, 1, .letter 0x544F 0x20 0x19⟩,
      ⟨0x10F07, 8, .letter 0x5450 0x20 0x2⟩, ⟨0x10F0F, 1, .letter 0x5457 0x20 0x19⟩,
      ⟨0x10F10, 1, .several [.letter 0x5457 0x20 0x4, .mark 0x11E 0x4]⟩,
      ⟨0x10F11, 2, .letter 0x5458 0x20 0x2⟩,
      ⟨0x10F13, 1, .several [.letter 0x5459 0x20 0x4, .mark 0x11E 0x4]⟩,
      ⟨0x10F14, 2, .letter 0x545A 0x20 0x2⟩, ⟨0x10F16, 1, .letter 0x545B 0x20 0x19⟩,
      ⟨0x10F17, 1, .several [.letter 0x545B 0x20 0x4, .mark 0x11E 0x4]⟩,
      ⟨0x10F18, 3, .letter 0x545C 0x20 0x2⟩, ⟨0x10F1B, 1, .letter 0x545E 0x20 0x19⟩,
      ⟨0x10F1C, 1, .several [.letter 0x545E 0x20 0x4, .mark 0x11E 0x4]⟩,
      ⟨0x10F1D, 5, .letter 0x217E 0x20 0x2⟩, ⟨0x10F22, 5, .letter 0x2276 0x20 0x2⟩,
      ⟨0x10F27, 1, .several [.letter 0x5459 0x20 0x4, .letter 0x545C 0x20 0x4]⟩]⟩

def sogdian : Chart :=
  ⟨0x10F30, 0x10F6F,
    [⟨0x10F30, 21, .letter 0x545F 0x20 0x2⟩,
      ⟨0x10F45, 1, .several [.letter 0x5470 0x20 0x4, .mark 0x11E 0x4]⟩,
      ⟨0x10F46, 1, .mark 0x34 0x2⟩, ⟨0x10F47, 1, .mark 0x34 0x2⟩, ⟨0x10F48, 1, .mark 0x33 0x2⟩,
      ⟨0x10F49, 1, .mark 0x33 0x2⟩, ⟨0x10F4A, 2, .mark 0x33 0x2⟩, ⟨0x10F4C, 2, .mark 0x33 0x2⟩,
      ⟨0x10F4E, 1, .mark 0x34 0x2⟩, ⟨0x10F4F, 1, .mark 0x34 0x2⟩, ⟨0x10F50, 1, .mark 0x34 0x2⟩,
      ⟨0x10F51, 1, .letter 0x217E 0x20 0x2⟩, ⟨0x10F52, 3, .letter 0x227B 0x20 0x2⟩,
      ⟨0x10F55, 5, .blank 0x2F9⟩]⟩

def oldUyghur : Chart :=
  ⟨0x10F70, 0x10FAF,
    [⟨0x10F70, 18, .letter 0x5474 0x20 0x2⟩, ⟨0x10F82, 2, .mark 0x33 0x2⟩,
      ⟨0x10F84, 2, .mark 0x33 0x2⟩, ⟨0x10F86, 4, .blank 0x2FE⟩]⟩

def chorasmian : Chart :=
  ⟨0x10FB0, 0x10FDF,
    [⟨0x10FB0, 21, .letter 0x54B2 0x20 0x2⟩, ⟨0x10FC5, 4, .letter 0x217E 0x20 0x2⟩,
      ⟨0x10FC9, 3, .letter 0x227E 0x20 0x2⟩]⟩

def mongolianSupplement : Chart := ⟨0x11660, 0x1167F, [⟨0x11660, 13, .blank 0x40E⟩]⟩

def zanabazarSquare : Chart :=
  ⟨0x11A00, 0x11A4F,
    [⟨0x11A00, 11, .letter 0x34CD 0x20 0x2⟩, ⟨0x11A0B, 1, .letter 0x34A5 0x20 0x2⟩,
      ⟨0x11A0C, 38, .letter 0x34A7 0x20 0x2⟩, ⟨0x11A32, 1, .letter 0x34A6 0x20 0x2⟩,
      ⟨0x11A33, 1, .mark 0xC2 0x2⟩, ⟨0x11A34, 1, .letter 0x34D8 0x20 0x2⟩,
      ⟨0x11A35, 1, .mark 0xC3 0x2⟩, ⟨0x11A36, 1, .mark 0xC3 0x2⟩, ⟨0x11A37, 3, .mark 0xC3 0x2⟩,
      ⟨0x11A3A, 1, .letter 0x34C6 0x20 0x17⟩, ⟨0x11A3B, 4, .letter 0x34C5 0x20 0x19⟩,
      ⟨0x11A3F, 8, .blank 0x44B⟩, ⟨0x11A47, 1, .letter 0x34D9 0x20 0x2⟩]⟩

def soyombo : Chart :=
  ⟨0x11A50, 0x11AAF,
    [⟨0x11A50, 4, .letter 0x34DA 0x20 0x2⟩, ⟨0x11A54, 1, .letter 0x34E0 0x20 0x2⟩,
      ⟨0x11A55, 1, .letter 0x34E2 0x20 0x2⟩, ⟨0x11A56, 1, .letter 0x34E1 0x20 0x2⟩,
      ⟨0x11A57, 2, .letter 0x34E3 0x20 0x2⟩, ⟨0x11A59, 2, .letter 0x34DE 0x20 0x2⟩,
      ⟨0x11A5B, 2, .letter 0x34E5 0x20 0x2⟩, ⟨0x11A5D, 38, .letter 0x34E8 0x20 0x2⟩,
      ⟨0x11A83, 1, .letter 0x34E7 0x20 0x2⟩, ⟨0x11A84, 2, .letter 0x350E 0x20 0x2⟩,
      ⟨0x11A86, 2, .letter 0x3507 0x20 0x17⟩, ⟨0x11A88, 1, .letter 0x350A 0x20 0x17⟩,
      ⟨0x11A89, 1, .letter 0x350C 0x20 0x17⟩, ⟨0x11A8A, 1, .letter 0x34E6 0x20 0x19⟩,
      ⟨0x11A8B, 1, .letter 0x34E8 0x20 0x19⟩, ⟨0x11A8C, 1, .letter 0x34EB 0x20 0x19⟩,
      ⟨0x11A8D, 1, .letter 0x34F6 0x20 0x19⟩, ⟨0x11A8E, 2, .letter 0x34FA 0x20 0x19⟩,
      ⟨0x11A90, 1, .letter 0x34FF 0x20 0x19⟩, ⟨0x11A91, 2, .letter 0x3507 0x20 0x19⟩,
      ⟨0x11A93, 1, .letter 0x350A 0x20 0x19⟩, ⟨0x11A94, 1, .letter 0x350C 0x20 0x19⟩,
      ⟨0x11A95, 1, .letter 0x3505 0x20 0x19⟩, ⟨0x11A96, 2, .mark 0xC4 0x2⟩,
      ⟨0x11A98, 1, .mark 0xD2 0x2⟩, ⟨0x11A99, 1, .letter 0x3510 0x20 0x2⟩,
      ⟨0x11A9A, 3, .blank 0x453⟩, ⟨0x11A9D, 1, .letter 0x3511 0x20 0x2⟩,
      ⟨0x11A9E, 5, .blank 0x456⟩]⟩

def marchen : Chart :=
  ⟨0x11C70, 0x11CBF,
    [⟨0x11C70, 2, .blank 0x45B⟩, ⟨0x11C72, 1, .letter 0x3512 0x20 0x2⟩,
      ⟨0x11C73, 1, .letter 0x3514 0x20 0x2⟩, ⟨0x11C74, 1, .letter 0x3516 0x20 0x2⟩,
      ⟨0x11C75, 1, .letter 0x3518 0x20 0x2⟩, ⟨0x11C76, 1, .letter 0x351A 0x20 0x2⟩,
      ⟨0x11C77, 1, .letter 0x351C 0x20 0x2⟩, ⟨0x11C78, 1, .letter 0x351E 0x20 0x2⟩,
      ⟨0x11C79, 1, .letter 0x3520 0x20 0x2⟩, ⟨0x11C7A, 1, .letter 0x3522 0x20 0x2⟩,
      ⟨0x11C7B, 1, .letter 0x3524 0x20 0x2⟩, ⟨0x11C7C, 1, .letter 0x3526 0x20 0x2⟩,
      ⟨0x11C7D, 1, .letter 0x3528 0x20 0x2⟩, ⟨0x11C7E, 1, .letter 0x352A 0x20 0x2⟩,
      ⟨0x11C7F, 1, .letter 0x352C 0x20 0x2⟩, ⟨0x11C80, 1, .letter 0x352E 0x20 0x2⟩,
      ⟨0x11C81, 1, .letter 0x3530 0x20 0x2⟩, ⟨0x11C82, 1, .letter 0x3532 0x20 0x2⟩,
      ⟨0x11C83, 1, .letter 0x3534 0x20 0x2⟩, ⟨0x11C84, 1, .letter 0x3536 0x20 0x2⟩,
      ⟨0x11C85, 1, .letter 0x3538 0x20 0x2⟩, ⟨0x11C86, 1, .letter 0x353A 0x20 0x2⟩,
      ⟨0x11C87, 1, .letter 0x353C 0x20 0x2⟩, ⟨0x11C88, 2, .letter 0x353E 0x20 0x2⟩,
      ⟨0x11C8A, 1, .letter 0x3541 0x20 0x2⟩, ⟨0x11C8B, 1, .letter 0x3543 0x20 0x2⟩,
      ⟨0x11C8C, 1, .letter 0x3545 0x20 0x2⟩, ⟨0x11C8D, 1, .letter 0x3547 0x20 0x2⟩,
      ⟨0x11C8E, 1, .letter 0x3549 0x20 0x2⟩, ⟨0x11C8F, 1, .letter 0x354B 0x20 0x2⟩,
      ⟨0x11C92, 1, .letter 0x3513 0x20 0x2⟩, ⟨0x11C93, 1, .letter 0x3515 0x20 0x2⟩,
      ⟨0x11C94, 1, .letter 0x3517 0x20 0x2⟩, ⟨0x11C95, 1, .letter 0x3519 0x20 0x2⟩,
      ⟨0x11C96, 1, .letter 0x351B 0x20 0x2⟩, ⟨0x11C97, 1, .letter 0x351D 0x20 0x2⟩,
      ⟨0x11C98, 1, .letter 0x351F 0x20 0x2⟩, ⟨0x11C99, 1, .letter 0x3521 0x20 0x2⟩,
      ⟨0x11C9A, 1, .letter 0x3523 0x20 0x2⟩, ⟨0x11C9B, 1, .letter 0x3525 0x20 0x2⟩,
      ⟨0x11C9C, 1, .letter 0x3527 0x20 0x2⟩, ⟨0x11C9D, 1, .letter 0x3529 0x20 0x2⟩,
      ⟨0x11C9E, 1, .letter 0x352B 0x20 0x2⟩, ⟨0x11C9F, 1, .letter 0x352D 0x20 0x2⟩,
      ⟨0x11CA0, 1, .letter 0x352F 0x20 0x2⟩, ⟨0x11CA1, 1, .letter 0x3531 0x20 0x2⟩,
      ⟨0x11CA2, 1, .letter 0x3533 0x20 0x2⟩, ⟨0x11CA3, 1, .letter 0x3535 0x20 0x2⟩,
      ⟨0x11CA4, 1, .letter 0x3537 0x20 0x2⟩, ⟨0x11CA5, 1, .letter 0x3539 0x20 0x2⟩,
      ⟨0x11CA6, 1, .letter 0x353B 0x20 0x2⟩, ⟨0x11CA7, 1, .letter 0x353D 0x20 0x2⟩,
      ⟨0x11CA9, 1, .letter 0x3540 0x20 0x2⟩, ⟨0x11CAA, 1, .letter 0x3542 0x20 0x2⟩,
      ⟨0x11CAB, 1, .letter 0x3544 0x20 0x2⟩, ⟨0x11CAC, 1, .letter 0x3546 0x20 0x2⟩,
      ⟨0x11CAD, 1, .letter 0x3548 0x20 0x2⟩, ⟨0x11CAE, 1, .letter 0x354A 0x20 0x2⟩,
      ⟨0x11CAF, 6, .letter 0x354C 0x20 0x2⟩, ⟨0x11CB5, 1, .mark 0xC4 0x2⟩,
      ⟨0x11CB6, 1, .mark 0xC3 0x2⟩]⟩

def centralAsianCharts : List Chart :=
  [tibetan, mongolian, phagspa, oldTurkic, oldSogdian, sogdian, oldUyghur, chorasmian,
    mongolianSupplement, zanabazarSquare, soyombo, marchen]

end CodeNotes.Collation
