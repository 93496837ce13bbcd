import SkinRelay.Text.Rows

/-!
The direction in which the characters of a domain name are written. A character that is in none of
these sets is written from left to right.
-/

namespace SkinRelay.Domain

/-- Letters that are written from right to left. -/
def rightSet : Text.CodePoints := Text.CodePoints.ofText
  "1470 1471 1472 1473 1475 1476 1478 1479 1488 1515 1519 1525 1544 1545 1547 1548 1549 1550 1563
   1564 1565 1611 1645 1648 1649 1653 1657 1750 1765 1767 1774 1776 1786 1806 1808 1809 1810 1840
   1869 1958 1969 1970 1984 2027 2036 2038 2042 2043 2046 2070 2074 2075 2084 2085 2088 2089 2096
   2111 2112 2137 2142 2143 2144 2155 2160 2192 2208 2250 64434 64467 64912 64914 64968 64975 65139
   65140 67584 67590 67592 67593 67594 67638 67639 67641 67644 67645 67647 67670 67671 67743 67751
   67760 67808 67827 67828 67830 67835 67868 67872 67898 67903 67930 67968 68024 68028 68048 68050
   68097 68112 68116 68117 68120 68121 68150 68160 68169 68176 68185 68192 68256 68288 68325 68331
   68343 68352 68406 68416 68438 68440 68467 68472 68498 68505 68509 68521 68528 68608 68681 68800
   68851 68858 68900 68928 68944 68974 68998 69006 69008 69248 69290 69293 69294 69296 69298 69314
   69320 69328 69337 69376 69416 69424 69446 69457 69466 69488 69506 69510 69514 69552 69580 69600
   69623 124928 125125 125127 125136 125218 125252 125259 125260 125264 125274 125278 125280 126065
   126133 126209 126270;"

/-- Arabic digits and the signs that go with them. -/
def arabicNumberSet : Text.CodePoints := Text.CodePoints.ofText
  "1632 1642 1643 1645 68912 68922 69216 69247;"

/-- European digits. -/
def europeanNumberSet : Text.CodePoints := Text.CodePoints.ofText
  "48 58 1776 1786 66273 66300;"

/-- Signs that take the direction of what is around them. -/
def neutralSet : Text.CodePoints := Text.CodePoints.ofText
  "0 9 14 28 33 48 58 65 91 97 123 128 161 168 169 170 171 173 174 175 176 178 182 184 187 188 191
   192 215 216 247 248 697 699 706 720 722 728 734 736 741 750 751 768 885 886 1014 1015 1418 1419
   1421 1424 1542 1544 1545 1547 1548 1549 1550 1552 1642 1643 1758 1759 1769 1770 2038 2042 2546
   2548 2555 2556 2801 2802 3059 3067 3192 3199 3647 3648 3898 3902 5008 5018 5120 5121 5787 5789
   6107 6108 6128 6138 6144 6155 6464 6465 6468 6470 6622 6656 6990 6992 7039 7040 8204 8206 8208
   8209 8210 8215 8216 8228 8231 8232 8240 8243 8245 8246 8248 8252 8253 8254 8255 8263 8266 8279
   8280 8287 8352 8360 8361 8386 8452 8453 8456 8457 8468 8469 8471 8473 8478 8480 8483 8484 8485
   8486 8487 8488 8489 8490 8494 8495 8506 8507 8513 8517 8522 8526 8586 8588 8592 8748 8750 8751
   8753 9001 9003 9014 9083 9109 9110 9258 9280 9291 9451 9900 9901 10240 10496 10764 10765 10868
   10871 10972 10973 11124 11126 11264 11493 11499 11513 11520 11776 11870 11904 11930 11931 11935
   11936 12019 12289 12290 12291 12293 12296 12321 12336 12337 12343 12344 12349 12352 12448 12449
   12539 12540 12736 12774 19904 19968 42128 42183 42509 42512 42611 42612 42622 42624 42752 42786
   42888 42889 43048 43052 43064 43066 43124 43128 43882 43884 64830 64848 64975 64976 65021 65024
   65093 65095 65793 65794 65856 65933 65936 65949 65952 65953 67871 67872 68409 68416 69714 69734
   70612 70614 70615 70617 71264 71277 72448 72458 72673 72674 73539 73552 73685 73714 93549 93552
   94178 94179 117760 117974 118010 118013 118016 118452 118458 118481 118496 118513 119273 119275
   119296 119362 119365 119366 119552 119639 123647 123648 124415 124416 126704 126706 126976
   127020 127024 127124 127136 127151 127153 127168 127169 127184 127185 127222 127243 127248
   127279 127280 127341 127344 127405 127406 127584 127590 127744 128729 128732 128749 128752
   128765 128768 128986 128992 129004 129008 129009 129024 129036 129040 129096 129104 129114
   129120 129160 129168 129198 129200 129212 129216 129218 129232 129241 129280 129624 129632
   129646 129648 129661 129664 129675 129678 129735 129736 129737 129741 129757 129759 129771
   129775 129785 129792 129939 129940 130032 130042 130043;"

/-- Marks that belong to the character before them. -/
def attachedSet : Text.CodePoints := Text.CodePoints.ofText
  "768 832 834 835 838 847 848 880 1155 1162 1425 1470 1471 1472 1473 1475 1476 1478 1479 1480 1552
   1563 1611 1632 1648 1649 1750 1757 1759 1765 1767 1769 1770 1774 1809 1810 1840 1867 1958 1969
   2027 2036 2045 2046 2070 2074 2075 2084 2085 2088 2089 2094 2137 2140 2199 2208 2250 2274 2275
   2307 2362 2363 2364 2365 2369 2377 2381 2382 2385 2392 2402 2404 2433 2434 2492 2493 2497 2501
   2509 2510 2530 2532 2558 2559 2561 2563 2620 2621 2625 2627 2631 2633 2635 2638 2641 2642 2672
   2674 2677 2678 2689 2691 2748 2749 2753 2758 2759 2761 2765 2766 2786 2788 2810 2816 2817 2818
   2876 2877 2879 2880 2881 2885 2893 2894 2901 2903 2914 2916 2946 2947 3008 3009 3021 3022 3072
   3073 3076 3077 3132 3133 3134 3137 3142 3145 3146 3150 3157 3159 3170 3172 3201 3202 3260 3261
   3276 3278 3298 3300 3328 3330 3387 3389 3393 3397 3405 3406 3426 3428 3457 3458 3530 3531 3538
   3541 3542 3543 3633 3634 3636 3643 3655 3663 3761 3762 3764 3773 3784 3791 3864 3866 3893 3894
   3895 3896 3897 3898 3953 3955 3956 3957 3962 3967 3968 3969 3970 3973 3974 3976 3981 3987 3988
   3992 3993 3997 3998 4002 4003 4007 4008 4012 4013 4025 4026 4029 4038 4039 4141 4145 4146 4152
   4153 4155 4157 4159 4184 4186 4190 4193 4209 4213 4226 4227 4229 4231 4237 4238 4253 4254 4957
   4960 5906 5909 5938 5940 5970 5972 6002 6004 6071 6078 6086 6087 6089 6100 6109 6110 6277 6279
   6313 6314 6432 6435 6439 6441 6450 6451 6457 6460 6679 6681 6683 6684 6742 6743 6744 6751 6752
   6753 6754 6755 6757 6765 6771 6781 6783 6784 6832 6878 6880 6892 6912 6916 6964 6965 6966 6971
   6972 6973 6978 6979 7019 7028 7040 7042 7074 7078 7080 7082 7083 7086 7142 7143 7144 7146 7149
   7150 7151 7154 7212 7220 7222 7224 7376 7379 7380 7393 7394 7401 7405 7406 7412 7413 7416 7418
   7616 7680 8400 8433 11503 11506 11647 11648 11744 11776 12330 12334 12441 12443 42607 42611
   42612 42622 42654 42656 42736 42738 43010 43011 43014 43015 43019 43020 43045 43047 43052 43053
   43204 43206 43232 43250 43263 43264 43302 43310 43335 43346 43392 43395 43443 43444 43446 43450
   43452 43454 43493 43494 43561 43567 43569 43571 43573 43575 43587 43588 43596 43597 43644 43645
   43696 43697 43698 43701 43703 43705 43710 43712 43713 43714 43756 43758 43766 43767 44005 44006
   44008 44009 44013 44014 64286 64287 65056 65072 66045 66046 66272 66273 66422 66427 68097 68100
   68101 68103 68108 68112 68152 68155 68159 68160 68325 68327 68900 68904 68969 68974 69291 69293
   69370 69376 69446 69457 69506 69510 69633 69634 69688 69703 69744 69745 69747 69749 69759 69762
   69811 69815 69817 69819 69826 69827 69888 69891 69927 69932 69933 69941 70003 70004 70016 70018
   70070 70079 70089 70093 70095 70096 70191 70194 70196 70197 70198 70200 70206 70207 70209 70210
   70367 70368 70371 70379 70400 70402 70459 70461 70464 70465 70502 70509 70512 70517 70587 70593
   70606 70607 70608 70609 70610 70611 70625 70627 70712 70720 70722 70725 70726 70727 70750 70751
   70835 70841 70842 70843 70847 70849 70850 70852 71090 71094 71100 71102 71103 71105 71132 71134
   71219 71227 71229 71230 71231 71233 71339 71340 71341 71342 71344 71350 71351 71352 71453 71456
   71458 71462 71463 71468 71727 71736 71737 71739 71995 71997 71998 71999 72003 72004 72148 72152
   72154 72156 72160 72161 72193 72199 72201 72203 72243 72249 72251 72255 72263 72264 72273 72279
   72281 72284 72330 72343 72344 72346 72544 72545 72546 72549 72550 72551 72752 72759 72760 72766
   72850 72872 72874 72881 72882 72884 72885 72887 73009 73015 73018 73019 73020 73022 73023 73030
   73031 73032 73104 73106 73109 73110 73111 73112 73459 73461 73472 73474 73526 73531 73536 73537
   73538 73539 73562 73563 78912 78913 78919 78934 90398 90410 90413 90416 92912 92917 92976 92983
   94031 94032 94095 94099 94180 94181 113821 113823 118528 118574 118576 118599 119143 119146
   119163 119171 119173 119180 119210 119214 119362 119365 121344 121399 121403 121453 121461
   121462 121476 121477 121499 121504 121505 121520 122880 122887 122888 122905 122907 122914
   122915 122917 122918 122923 123023 123024 123184 123191 123566 123567 123628 123632 124140
   124144 124398 124400 124643 124644 124646 124647 124654 124656 124661 124662 125136 125143
   125252 125259;"

end SkinRelay.Domain
